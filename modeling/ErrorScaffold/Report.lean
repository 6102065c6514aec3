/-
What the report macro of a header reports, without a compiler.

`Catalog.report` goes through the slots in order.  A slot below the number of recorded warnings
tries the kinds in catalog order, and the first whose ordinal is the warning's reports it; a
warning whose kind is the sentinel or is not in the catalog is not reported.  The hard error is
resolved through the ordinals, and one without a marker type is the only failure.
-/
import ErrorScaffold.Catalog

namespace ErrorScaffold

/-- One warning that the parser recorded. -/
structure Warning where
  kind : Ordinal
  row : Int
  col : Int
  deriving DecidableEq, Repr

/-- The parser's single record of a hard error; a negative coordinate stands for none. -/
structure HardError where
  kind : Ordinal := .sentinel
  row : Int := -1
  col : Int := -1
  deriving DecidableEq, Repr

/-- Both coordinates are given. -/
def HardError.isRaised (e : HardError) : Bool :=
  0 ≤ e.row && 0 ≤ e.col

/-- A warning that a slot reports. -/
structure SlotReport where
  slot : Nat
  row : Int
  col : Int
  marker : Marker
  deriving DecidableEq, Repr

/-- The hard error that the terminal check reports. -/
structure ErrorReport where
  row : Int
  col : Int
  marker : Marker
  deriving DecidableEq, Repr

/-- All that one expansion of the report macro yields. -/
structure Report where
  warnings : List SlotReport
  error : Option ErrorReport
  /-- How many warnings were recorded beyond the slots. -/
  unaddressed : Nat
  deriving DecidableEq, Repr

/-- Why a report cannot be resolved. -/
inductive ReportError
  | unmappedOrdinal (ordinal : Ordinal)
  deriving DecidableEq, Repr

namespace ReportError

def message : ReportError → String
  | unmappedOrdinal ordinal =>
    "ordinal " ++ toString ordinal ++ " has no marker type in this catalog"

def code : ReportError → String
  | unmappedOrdinal _ => "sptgen::dispatch::unmapped_ordinal"

end ReportError

namespace Catalog

/-- The report of one slot: the first kind whose ordinal is the warning's. -/
def slotReport? (c : Catalog) (slot : Nat) (w : Warning) : Option SlotReport :=
  (c.numberedKinds.find? fun (ordinal, _) => ordinal == w.kind).map fun (_, name) =>
    ⟨slot, w.row, w.col, .kind name⟩

/-- The reports of the slots within the budget, in slot order. -/
def slotReports (c : Catalog) (budget : SlotBudget) (warnings : List Warning) :
    List SlotReport :=
  ((warnings.take budget.slots).zipIdx).filterMap fun (w, slot) => c.slotReport? slot w

/-- The terminal check. -/
def hardError (c : Catalog) (e : HardError) : Except ReportError (Option ErrorReport) :=
  if e.isRaised then
    match c.marker? e.kind with
    | some marker => .ok (some ⟨e.row, e.col, marker⟩)
    | none => .error (.unmappedOrdinal e.kind)
  else .ok none

/-- The report of a parser's state. -/
def report (c : Catalog) (budget : SlotBudget) (warnings : List Warning) (e : HardError) :
    Except ReportError Report := do
  let error ← c.hardError e
  return {
    warnings := c.slotReports budget warnings
    error
    -- zero when the budget covers every warning
    unaddressed := warnings.length - budget.slots }

end Catalog

end ErrorScaffold
