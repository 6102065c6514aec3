/-
The catalog of error kinds and the ordinals it gives them.

A catalog is an ordered list of distinct identifiers.  Ordinal 0 is the sentinel ("no error") and
the kinds follow at 1, 2, … in catalog order; every ordinal has one marker type.  Beside the
catalog stands the slot budget, the number of recorded warnings that a header addresses.

* `Catalog.ofNames` — the only way in from outside: it adds the names one at a time and stops at
  the first that is no identifier or is there already.
-/
import ErrorScaffold.HeaderError

namespace ErrorScaffold

/-! ### Ordinals and marker types -/

/-- The position of a kind, counted from the sentinel's 0. -/
structure Ordinal where
  value : Nat
  deriving DecidableEq, Repr

namespace Ordinal

/-- The ordinal of "no error". -/
def sentinel : Ordinal := ⟨0⟩

def isSentinel (o : Ordinal) : Bool :=
  o == sentinel

instance : ToString Ordinal where
  toString o := toString o.value

/-- The decimal digits, filled up with spaces on the left to three columns. -/
def padded (o : Ordinal) : String :=
  let digits := toString o
  String.ofList (List.replicate (3 - digits.length) ' ') ++ digits

end Ordinal

/-- The type that stands for one ordinal. -/
inductive Marker
  | sentinel
  | kind (name : String)
  deriving DecidableEq, Repr

/-- The name of the type; the sentinel's comes from outside the catalog. -/
def Marker.name (sentinel : String) : Marker → String
  | .sentinel => sentinel
  | .kind name => name

/-! ### The catalog -/

/-- An ordered list of distinct identifiers. -/
structure Catalog where
  kinds : List String
  usable : ∀ name ∈ kinds, Identifier.defect? name = none
  distinct : kinds.Nodup
  deriving DecidableEq

namespace Catalog

/-- No kinds, only the sentinel. -/
def empty : Catalog :=
  ⟨[], by simp, .nil⟩

/-- Adds one name at the end. -/
def add (c : Catalog) (name : String) : Except HeaderError Catalog :=
  match usable : Identifier.defect? name with
  | some defect => .error (.unusableKind name c.kinds.length defect)
  | none =>
    if new : name ∈ c.kinds then
      .error (.duplicateKind name (c.kinds.idxOf name) c.kinds.length)
    else
      .ok {
        kinds := c.kinds ++ [name]
        usable := by
          intro other h
          rcases List.mem_append.1 h with h | h
          · exact c.usable other h
          · rw [List.mem_singleton.1 h]
            exact usable
        distinct := by
          refine List.nodup_append.2 ⟨c.distinct, by simp, ?_⟩
          intro a ha b hb hab
          rw [hab, List.mem_singleton.1 hb] at ha
          exact new ha }

/-- The catalog of the names, in ordinal order. -/
def ofNames (names : List String) : Except HeaderError Catalog :=
  names.foldlM add empty

/-- The kinds that the seephit parser records. -/
def builtInKinds : List String :=
  ["Expecting_an_identifier",
    "Unexpected_character_inside_tag_content",
    "Expecting_a_tag_name_after_open_bracket",
    "Empty_value_for_non_boolean_attribute",
    "Duplicate_ID_on_tag",
    "Expecting_a_value_for_attribute",
    "Missing_open_bracket",
    "Unknown_tag_name",
    "Missing_close_bracket_on_void_tag",
    "Missing_close_bracket_on_open_tag",
    "Expecting_a_close_tag",
    "Mismatched_Close_Tag",
    "Missing_close_bracket_in_close_tag",
    "Missing_close_brace_in_template",
    "Unexpected_end_of_stream",
    "Invalid_syntax_in_for_tag",
    "Invalid_syntax_in_if_tag",
    "Infinite_loop_in_for_tag"]

/-- The built-in catalog. -/
def seephit : Catalog :=
  ⟨builtInKinds, by decide +kernel, by decide +kernel⟩

/-- The number of kinds, the sentinel not counted. -/
def size (c : Catalog) : Nat :=
  c.kinds.length

def isEmpty (c : Catalog) : Bool :=
  c.kinds.isEmpty

/-- The number of ordinals, the sentinel's among them. -/
def ordinalCount (c : Catalog) : Nat :=
  c.size + 1

/-- The kinds with their ordinals, in catalog order. -/
def numberedKinds (c : Catalog) : List (Ordinal × String) :=
  (c.kinds.zipIdx 1).map fun (name, position) => (⟨position⟩, name)

/-- Every ordinal with its marker type, the sentinel first. -/
def entries (c : Catalog) : List (Ordinal × Marker) :=
  (.sentinel, .sentinel) :: c.numberedKinds.map fun (ordinal, name) => (ordinal, .kind name)

/-- The marker type of an ordinal. -/
def marker? (c : Catalog) : Ordinal → Option Marker
  | ⟨0⟩ => some .sentinel
  | ⟨position + 1⟩ => c.kinds[position]?.map .kind

/-- The ordinal of a kind. -/
def ordinalOf? (c : Catalog) (name : String) : Option Ordinal :=
  (c.kinds.idxOf? name).map fun position => ⟨position + 1⟩

end Catalog

/-! ### The slot budget -/

/-- How many recorded warnings a header addresses: at least one. -/
structure SlotBudget where
  slots : Nat
  positive : 0 < slots
  deriving DecidableEq

namespace SlotBudget

def ofNat (slots : Nat) : Except HeaderError SlotBudget :=
  if positive : 0 < slots then .ok ⟨slots, positive⟩ else .error .noSlots

/-- The number of slots where nothing else is said. -/
def defaultSlots : Nat := 20

def standard : SlotBudget :=
  ⟨defaultSlots, by decide⟩

end SlotBudget

end ErrorScaffold
