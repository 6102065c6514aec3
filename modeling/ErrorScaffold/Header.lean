/-
The generated header: what it declares, and its text.

A header is a value before it is a text: the rows of the ordinal table, one per ordinal, and the
guarded blocks of the report macro, one per slot.  The text has five sections:

* `Header.ordinals` — the enumeration, the sentinel first and then the kinds in catalog order;
* `Header.markers` — one forward-declared type per ordinal;
* `Header.specializations` — the template from ordinals to marker types;
* `Header.dispatch` — the guarded blocks, with one trial per kind in each;
* `Header.report` — the report macro, which holds the blocks and the terminal check.

The blocks are written out one by one, so that the preprocessor has nothing to repeat.
-/
import ErrorScaffold.Catalog
import ErrorScaffold.Schema

namespace ErrorScaffold

/-- The text of a count: a number and a noun, in the plural unless the number is one. -/
def quantity (count : Nat) (noun : String) : String :=
  if count = 1 then toString count ++ " " ++ noun else toString count ++ " " ++ noun ++ "s"

/-- One row of the ordinal table. -/
structure OrdinalRow where
  ordinal : Ordinal
  enumerator : String
  marker : String
  deriving DecidableEq, Repr

/-- The row of an entry of the catalog. -/
def OrdinalRow.ofEntry (s : Schema) (entry : Ordinal × Marker) : OrdinalRow :=
  let marker := entry.2.name s.sentinel
  ⟨entry.1, s.enumerator marker, marker⟩

/-- The ordinal table of a catalog, the sentinel first. -/
def OrdinalRow.table (s : Schema) (c : Catalog) : List OrdinalRow :=
  c.entries.map (OrdinalRow.ofEntry s)

/-- What the report macro does for one slot: the slot's index is its guard, and each trial tests
the kind of the slot's warning against one enumerator. -/
structure Header.Block where
  slot : Nat
  trials : List String
  deriving DecidableEq, Repr

/-- A header before it is written. -/
structure Header where
  schema : Schema
  rows : List OrdinalRow
  blocks : List Header.Block
  /-- The number of trials in each block, which is the number of kinds. -/
  trialCount : Nat

namespace Header

/-- The header of a catalog and a budget. -/
def build (s : Schema) (c : Catalog) (budget : SlotBudget) : Header where
  schema := s
  rows := OrdinalRow.table s c
  blocks := (List.range budget.slots).map fun slot => ⟨slot, c.kinds.map s.enumerator⟩
  trialCount := c.size

/-- The number of guarded blocks. -/
def slotCount (h : Header) : Nat :=
  h.blocks.length

/-! ### Declarations -/

/-- The enumeration of the ordinals. -/
def ordinals (h : Header) : String :=
  "enum " ++ h.schema.enumName ++ "\n\x7b\n  "
    ++ ",\n  ".intercalate (h.rows.map (·.enumerator)) ++ "\n\x7d;\n"

/-- The declaration of one marker type. -/
def markerLine (row : OrdinalRow) : String :=
  "struct " ++ row.marker ++ ";\n"

/-- The marker types. -/
def markers (h : Header) : String :=
  String.join (h.rows.map markerLine)

/-- The specialization of one ordinal. -/
def specializationLine (s : Schema) (row : OrdinalRow) : String :=
  "template<> struct " ++ s.mapping ++ "<" ++ row.enumerator ++ ">\x7busing type = "
    ++ row.marker ++ ";\x7d;\n"

/-- The template from ordinals to marker types. -/
def specializations (h : Header) : String :=
  "template<" ++ h.schema.enumName ++ " m> struct " ++ h.schema.mapping ++ "\x7b\x7d;\n\n"
    ++ String.join (h.rows.map (specializationLine h.schema))

/-! ### The report macro -/

/-- A line of a macro that goes on in the next line. -/
def continued (line : String) : String :=
  line ++ " \\\n"

/-- The marker type that the recorded kind of the warning at hand stands for. -/
def resolvedMarker (s : Schema) : String :=
  s.inScope s.mapping ++ "<w." ++ s.kindField ++ ">::type"

/-- The trial of one enumerator. -/
def trialLine (s : Schema) (enumerator : String) : String :=
  continued ("  " ++ s.inScope s.ifTemplate ++ "<w." ++ s.kindField ++ " == "
    ++ s.inScope enumerator ++ ", " ++ s.inScope s.warningTemplate ++ "<w." ++ s.rowField
    ++ ", w." ++ s.colField ++ ", " ++ resolvedMarker s ++ ">> \x7b\x7d;")

/-- The line that names the warning at hand; a block without trials has no use for it. -/
def bindingLine (s : Schema) (block : Block) : String :=
  if block.trials.isEmpty then ""
  else
    continued ("  constexpr auto w = parser." ++ s.warningsField ++ "[" ++ toString block.slot
      ++ "];")

/-- A guarded block. -/
def blockText (s : Schema) (block : Block) : String :=
  continued ("if (" ++ toString block.slot ++ " < n)") ++ continued "\x7b" ++ bindingLine s block
    ++ String.join (block.trials.map (trialLine s)) ++ continued "\x7d"

/-- The guarded blocks. -/
def dispatch (h : Header) : String :=
  String.join (h.blocks.map (blockText h.schema))

/-- The line that counts the recorded warnings. -/
def countLine (s : Schema) : String :=
  continued ("constexpr int n = parser." ++ s.warningsField ++ ".size();")

/-- The terminal check: whether there is a hard error, and the construction that reports it. -/
def terminalCheck (s : Schema) : String :=
  continued ("constexpr bool hasErr = parser." ++ s.errorRowField ++ " >= 0 && parser."
      ++ s.errorColField ++ " >= 0;")
    ++ s.inScope s.ifTemplate ++ "<hasErr, " ++ s.inScope s.errorTemplate ++ "<parser."
    ++ s.errorRowField ++ ", parser." ++ s.errorColField ++ ", " ++ s.inScope s.mapping
    ++ "<parser." ++ s.errorKindField ++ ">::type>> \x7b\x7d;\n"

/-- The report macro, which is empty where the debug macro is defined. -/
def report (h : Header) : String :=
  let s := h.schema
  "#ifndef " ++ s.debugMacro ++ "\n\n" ++ continued ("#define " ++ s.reportMacro ++ "(parser)")
    ++ countLine s ++ h.dispatch ++ terminalCheck s ++ "\n#else\n\n#define " ++ s.reportMacro
    ++ "(parser)\n\n#endif\n"

/-! ### The whole text -/

/-- The first line, which says what the header was made from. -/
def banner (h : Header) : String :=
  "// Generated by sptgen from " ++ quantity h.trialCount "error kind" ++ " and "
    ++ quantity h.slotCount "warning slot" ++ ". Do not edit.\n\n"

/-- The text of the header. -/
def text (h : Header) : String :=
  h.banner ++ "#ifndef " ++ h.schema.includeGuard ++ "\n#define " ++ h.schema.includeGuard
    ++ "\n\n" ++ h.ordinals ++ "\n" ++ h.markers ++ "\n" ++ h.specializations ++ "\n" ++ h.report
    ++ "\n#endif\n"

end Header

end ErrorScaffold
