/-
The lines of a header.

A header is written line by line, each by one of a few forms.  `Layout.lines` lists the lines with
their forms and the names in them, and `toList_text` says that they are the text; the three
sections of declarations and the guarded blocks are parts of the list (`toList_ordinals`,
`toList_markers`, `toList_specializations`, `toList_dispatch`).
-/
import ErrorScaffold.Header
import ErrorScaffold.Proofs.Text.LineForm

namespace ErrorScaffold.Header

open LineForm

namespace Layout

/-! ### The forms -/

def bannerForm : LineForm where
  symbols := template "// Generated by sptgen from % error % and % warning %. Do not edit."
  arity := 4

def blankForm : LineForm := { symbols := template "", arity := 0 }

def ifndefForm : LineForm := { symbols := template "#ifndef %", arity := 1 }

def defineForm : LineForm := { symbols := template "#define %", arity := 1 }

def enumForm : LineForm := { symbols := template "enum %", arity := 1 }

def openForm : LineForm := { symbols := template "\x7b", arity := 0 }

def enumeratorForm : LineForm := { symbols := template "  %,", arity := 1 }

def lastEnumeratorForm : LineForm := { symbols := template "  %", arity := 1 }

def closeForm : LineForm := { symbols := template "\x7d;", arity := 0 }

def markerForm : LineForm := { symbols := template "struct %;", arity := 1 }

def primaryForm : LineForm := { symbols := template "template<% m> struct %\x7b\x7d;", arity := 2 }

def specializationForm : LineForm where
  symbols := template "template<> struct %<%>\x7busing type = %;\x7d;"
  arity := 3

def macroForm : LineForm := { symbols := template "#define %(parser) \\", arity := 1 }

def countForm : LineForm where
  symbols := template "constexpr int n = parser.%.size(); \\"
  arity := 1

def guardForm : LineForm := { symbols := template "if (% < n) \\", arity := 1 }

def openBlockForm : LineForm := { symbols := template "\x7b \\", arity := 0 }

def bindingForm : LineForm where
  symbols := template "  constexpr auto w = parser.%[%]; \\"
  arity := 2

def trialForm : LineForm where
  symbols := template "  %::%<w.% == %::%, %::%<w.%, w.%, %::%<w.%>::type>> \x7b\x7d; \\"
  arity := 12

def closeBlockForm : LineForm := { symbols := template "\x7d \\", arity := 0 }

def conditionForm : LineForm where
  symbols := template "constexpr bool hasErr = parser.% >= 0 && parser.% >= 0; \\"
  arity := 2

def errorForm : LineForm where
  symbols := template "%::%<hasErr, %::%<parser.%, parser.%, %::%<parser.%>::type>> \x7b\x7d;"
  arity := 9

def elseForm : LineForm := { symbols := template "#else", arity := 0 }

def emptyMacroForm : LineForm := { symbols := template "#define %(parser)", arity := 1 }

def endifForm : LineForm := { symbols := template "#endif", arity := 0 }

/-! ### The lines -/

def blank : Line := { form := blankForm, names := [] }

/-- The noun that goes with a count. -/
def plural (count : Nat) (noun : String) : String :=
  if count = 1 then noun else noun ++ "s"

def banner (h : Header) : Line :=
  { form := bannerForm
    names := [toString h.trialCount, plural h.trialCount "kind", toString h.slotCount,
      plural h.slotCount "slot"] }

def ifndef (name : String) : Line := { form := ifndefForm, names := [name] }

def define (name : String) : Line := { form := defineForm, names := [name] }

def enumerator (name : String) : Line := { form := enumeratorForm, names := [name] }

def lastEnumerator (name : String) : Line := { form := lastEnumeratorForm, names := [name] }

/-- One line for each enumerator; the last has no comma. -/
def enumerators : List String → List Line
  | [] => []
  | [name] => [lastEnumerator name]
  | name :: names => enumerator name :: enumerators names

def enumeration (s : Schema) : Line := { form := enumForm, names := [s.enumName] }

@[simp] theorem enumerators_cons_cons (name next : String) (names : List String) :
    enumerators (name :: next :: names) = enumerator name :: enumerators (next :: names) := rfl

def openList : Line := { form := openForm, names := [] }

def closeList : Line := { form := closeForm, names := [] }

/-- The lines of the enumeration. -/
def ordinals (h : Header) : List Line :=
  enumeration h.schema :: openList ::
    enumerators (h.rows.map (·.enumerator)) ++ [closeList]

def marker (row : OrdinalRow) : Line := { form := markerForm, names := [row.marker] }

/-- The lines of the marker types. -/
def markers (h : Header) : List Line :=
  h.rows.map marker

def specialization (s : Schema) (row : OrdinalRow) : Line :=
  { form := specializationForm, names := [s.mapping, row.enumerator, row.marker] }

def primary (s : Schema) : Line := { form := primaryForm, names := [s.enumName, s.mapping] }

/-- The lines of the template from ordinals to marker types. -/
def specializations (h : Header) : List Line :=
  primary h.schema :: blank ::
    h.rows.map (specialization h.schema)

def blockGuard (slot : Nat) : Line := { form := guardForm, names := [toString slot] }

def openBlock : Line := { form := openBlockForm, names := [] }

def binding (s : Schema) (slot : Nat) : Line :=
  { form := bindingForm, names := [s.warningsField, toString slot] }

/-- The warning at hand is named only where there are trials. -/
def bindings (s : Schema) (b : Block) : List Line :=
  if b.trials.isEmpty then [] else [binding s b.slot]

def trial (s : Schema) (name : String) : Line :=
  { form := trialForm
    names := [s.namespaceName, s.ifTemplate, s.kindField, s.namespaceName, name,
      s.namespaceName, s.warningTemplate, s.rowField, s.colField, s.namespaceName, s.mapping,
      s.kindField] }

def closeBlock : Line := { form := closeBlockForm, names := [] }

/-- The lines of a guarded block. -/
def block (s : Schema) (b : Block) : List Line :=
  blockGuard b.slot :: openBlock :: bindings s b ++ b.trials.map (trial s) ++ [closeBlock]

/-- The lines of the guarded blocks. -/
def dispatch (h : Header) : List Line :=
  h.blocks.flatMap (block h.schema)

def condition (s : Schema) : Line :=
  { form := conditionForm, names := [s.errorRowField, s.errorColField] }

def error (s : Schema) : Line :=
  { form := errorForm
    names := [s.namespaceName, s.ifTemplate, s.namespaceName, s.errorTemplate, s.errorRowField,
      s.errorColField, s.namespaceName, s.mapping, s.errorKindField] }

/-- The lines of the terminal check. -/
def terminalCheck (s : Schema) : List Line :=
  [condition s, error s]

def macroStart (s : Schema) : Line := { form := macroForm, names := [s.reportMacro] }

def count (s : Schema) : Line := { form := countForm, names := [s.warningsField] }

/-- The lines of the definition of the report macro. -/
def macroLines (h : Header) : List Line :=
  macroStart h.schema :: count h.schema :: dispatch h ++ terminalCheck h.schema

/-- The lines before the definition of the report macro. -/
def opening (h : Header) : List Line :=
  [banner h, blank, ifndef h.schema.includeGuard, define h.schema.includeGuard, blank]
    ++ ordinals h ++ [blank] ++ markers h ++ [blank] ++ specializations h
    ++ [blank, ifndef h.schema.debugMacro, blank]

def otherwise : Line := { form := elseForm, names := [] }

def emptyMacro (s : Schema) : Line := { form := emptyMacroForm, names := [s.reportMacro] }

def endif : Line := { form := endifForm, names := [] }

/-- The lines after it. -/
def closing (h : Header) : List Line :=
  [blank, otherwise, blank, emptyMacro h.schema, blank, endif, blank, endif]

/-- The lines of the header. -/
def lines (h : Header) : List Line :=
  opening h ++ macroLines h ++ closing h

/-! ### The forms of the sections -/

theorem eq_of_mem_enumerators {line : Line} {names : List String}
    (h : line ∈ enumerators names) :
    ∃ n ∈ names, line = enumerator n ∨ line = lastEnumerator n := by
  induction names with
  | nil => cases h
  | cons n names ih =>
    cases names with
    | nil => exact ⟨n, List.mem_cons_self, Or.inr (List.mem_singleton.1 h)⟩
    | cons next names =>
      rcases List.mem_cons.1 h with rfl | h
      · exact ⟨n, List.mem_cons_self, Or.inl rfl⟩
      · obtain ⟨m, hm, hline⟩ := ih h
        exact ⟨m, List.mem_cons_of_mem n hm, hline⟩

theorem form_of_mem_ordinals {h : Header} {line : Line} (hline : line ∈ ordinals h) :
    line.form ∈ [enumForm, openForm, enumeratorForm, lastEnumeratorForm, closeForm] := by
  rw [ordinals, List.mem_append, List.mem_cons, List.mem_cons, List.mem_singleton] at hline
  rcases hline with (rfl | rfl | hline) | rfl
  · exact .head _
  · exact .tail _ (.head _)
  · obtain ⟨n, -, rfl | rfl⟩ := eq_of_mem_enumerators hline
    · exact .tail _ (.tail _ (.head _))
    · exact .tail _ (.tail _ (.tail _ (.head _)))
  · exact .tail _ (.tail _ (.tail _ (.tail _ (.head _))))

theorem form_of_mem_markers {h : Header} {line : Line} (hline : line ∈ markers h) :
    line.form ∈ [markerForm] := by
  obtain ⟨row, -, rfl⟩ := List.mem_map.1 hline
  exact .head _

theorem form_of_mem_specializations {h : Header} {line : Line}
    (hline : line ∈ specializations h) :
    line.form ∈ [primaryForm, blankForm, specializationForm] := by
  rw [specializations, List.mem_cons, List.mem_cons] at hline
  rcases hline with rfl | rfl | hline
  · exact .head _
  · exact .tail _ (.head _)
  · obtain ⟨row, -, rfl⟩ := List.mem_map.1 hline
    exact .tail _ (.tail _ (.head _))

theorem form_of_mem_dispatch {h : Header} {line : Line} (hline : line ∈ dispatch h) :
    line.form ∈ [guardForm, openBlockForm, bindingForm, trialForm, closeBlockForm] := by
  obtain ⟨b, -, hline⟩ := List.mem_flatMap.1 hline
  rw [block, List.mem_append, List.mem_append, List.mem_cons, List.mem_cons,
    List.mem_singleton] at hline
  -- the five pieces of a block: two lines of its own, the binding, the trials and the last line
  rcases hline with ((rfl | rfl | hline) | hline) | rfl
  · exact .head _
  · exact .tail _ (.head _)
  · unfold bindings at hline
    split at hline
    · cases hline
    · rw [List.mem_singleton.1 hline]
      exact .tail _ (.tail _ (.head _))
  · obtain ⟨name, -, rfl⟩ := List.mem_map.1 hline
    exact .tail _ (.tail _ (.tail _ (.head _)))
  · exact .tail _ (.tail _ (.tail _ (.tail _ (.head _))))

/-- The forms of the lines before the definition of the report macro. -/
def openingForms : List LineForm :=
  [bannerForm, blankForm, ifndefForm, defineForm, enumForm, openForm, enumeratorForm,
    lastEnumeratorForm, closeForm, markerForm, primaryForm, specializationForm]

theorem form_of_mem_opening {h : Header} : ∀ line ∈ opening h, line.form ∈ openingForms := by
  have hordinals : ∀ line ∈ ordinals h, line.form ∈ openingForms := by
    intro line hline
    have hsub : [enumForm, openForm, enumeratorForm, lastEnumeratorForm, closeForm]
        ⊆ openingForms := by simp [openingForms]
    exact hsub (form_of_mem_ordinals hline)
  have hmarkers : ∀ line ∈ markers h, line.form ∈ openingForms := by
    intro line hline
    have hsub : [markerForm] ⊆ openingForms := by simp [openingForms]
    exact hsub (form_of_mem_markers hline)
  have hspecializations : ∀ line ∈ specializations h, line.form ∈ openingForms := by
    intro line hline
    have hsub : [primaryForm, blankForm, specializationForm] ⊆ openingForms := by
      simp [openingForms]
    exact hsub (form_of_mem_specializations hline)
  -- the three sections have their forms; what is left are the single lines between them
  simp only [opening, List.forall_mem_append, List.forall_mem_cons, List.not_mem_nil,
    false_implies, implies_true, and_true]
  refine ⟨⟨⟨⟨⟨⟨?_, hordinals⟩, ?_⟩, hmarkers⟩, ?_⟩, hspecializations⟩, ?_⟩
  all_goals simp [openingForms, banner, blank, ifndef, define]

end Layout

/-! ### The lines are the text -/

open Layout

/-- Texts that are lines each are lines together. -/
theorem toList_join_map {α : Type} {f : α → String} {g : α → List Line}
    (h : ∀ a, (f a).toList = Line.textOf (g a)) (as : List α) :
    (String.join (as.map f)).toList = Line.textOf (as.flatMap g) := by
  induction as with
  | nil => rfl
  | cons a as ih =>
    rw [List.map_cons, String.join_cons, String.toList_append, h a, ih, List.flatMap_cons,
      Line.textOf_append]

@[simp] theorem toList_markerLine (row : OrdinalRow) :
    (markerLine row).toList = Line.textOf [marker row] := by
  simp [markerLine, marker, markerForm, template, Line.chars, fill]

@[simp] theorem toList_markers (h : Header) :
    h.markers.toList = Line.textOf (Layout.markers h) := by
  rw [Header.markers, toList_join_map toList_markerLine, Layout.markers, List.map_eq_flatMap]

@[simp] theorem toList_specializationLine (s : Schema) (row : OrdinalRow) :
    (specializationLine s row).toList = Line.textOf [specialization s row] := by
  unfold specializationLine
  simp [specialization, specializationForm, template, Line.chars, fill]

@[simp] theorem toList_specializations (h : Header) :
    h.specializations.toList = Line.textOf (Layout.specializations h) := by
  have hprimary : ("template<" ++ h.schema.enumName ++ " m> struct " ++ h.schema.mapping
      ++ "\x7b\x7d;\n\n").toList = Line.textOf [primary h.schema, blank] := by
    simp [primary, primaryForm, blank, blankForm, template, Line.chars, fill]
  rw [Header.specializations, String.toList_append, hprimary,
    toList_join_map (toList_specializationLine h.schema), ← List.map_eq_flatMap,
    ← Line.textOf_append]
  rfl

theorem toList_enumerators (name : String) (names : List String) :
    ("  " ++ ",\n  ".intercalate (name :: names) ++ "\n").toList
      = Line.textOf (enumerators (name :: names)) := by
  induction names generalizing name with
  | nil => simp [enumerators, lastEnumerator, lastEnumeratorForm, template, Line.chars, fill]
  | cons next names ih =>
    have hfirst : ("  " ++ name ++ ",\n").toList = Line.textOf [enumerator name] := by
      simp [enumerator, enumeratorForm, template, Line.chars, fill]
    -- a comma and a newline end this line, and the blanks after them start the next
    have hsplit : "  " ++ ",\n  ".intercalate (name :: next :: names) ++ "\n"
        = ("  " ++ name ++ ",\n") ++ ("  " ++ ",\n  ".intercalate (next :: names) ++ "\n") := by
      rw [String.intercalate_cons_cons, show ",\n  " = ",\n" ++ "  " from rfl]
      simp only [String.append_assoc]
    rw [hsplit, String.toList_append, hfirst, ih next, ← Line.textOf_append]
    rfl

theorem toList_ordinals {h : Header} (hrows : h.rows ≠ []) :
    h.ordinals.toList = Line.textOf (Layout.ordinals h) := by
  obtain ⟨row, rows, hcons⟩ := List.ne_nil_iff_exists_cons.1 hrows
  have hfirst : ("enum " ++ h.schema.enumName ++ "\n\x7b\n").toList
      = Line.textOf [enumeration h.schema, openList] := by
    simp [enumeration, enumForm, openList, openForm, template, Line.chars, fill]
  have hlast : "\x7d;\n".toList = Line.textOf [closeList] := by
    simp [closeList, closeForm, template, Line.chars, fill]
  -- the text is cut where a line ends, inside two of its fixed parts
  have hsplit : h.ordinals = ("enum " ++ h.schema.enumName ++ "\n\x7b\n")
      ++ ("  " ++ ",\n  ".intercalate (h.rows.map (·.enumerator)) ++ "\n") ++ "\x7d;\n" := by
    rw [Header.ordinals, show "\n\x7b\n  " = "\n\x7b\n" ++ "  " from rfl,
      show "\n\x7d;\n" = "\n" ++ "\x7d;\n" from rfl]
    simp only [String.append_assoc]
  rw [hsplit, String.toList_append, String.toList_append, hfirst, hlast, hcons, List.map_cons,
    toList_enumerators, ← Line.textOf_append, ← Line.textOf_append, Layout.ordinals, hcons]
  rfl

/-! ### The report macro, line by line -/

@[simp] theorem toList_trialLine (s : Schema) (name : String) :
    (trialLine s name).toList = Line.textOf [trial s name] := by
  simp [trialLine, continued, resolvedMarker, Schema.inScope, trial, trialForm, template,
    Line.chars, fill]

@[simp] theorem toList_bindingLine (s : Schema) (b : Block) :
    (bindingLine s b).toList = Line.textOf (bindings s b) := by
  unfold bindingLine bindings
  split
  · rfl
  · simp [continued, binding, bindingForm, template, Line.chars, fill]

@[simp] theorem toList_blockText (s : Schema) (b : Block) :
    (blockText s b).toList = Line.textOf (block s b) := by
  have htrials := toList_join_map (toList_trialLine s) b.trials
  rw [← List.map_eq_flatMap] at htrials
  have hopening : (continued ("if (" ++ toString b.slot ++ " < n)") ++ continued "\x7b").toList
      = Line.textOf [blockGuard b.slot, openBlock] := by
    simp [continued, blockGuard, guardForm, openBlock, openBlockForm, template, Line.chars, fill]
  have hclosing : (continued "\x7d").toList
      = Line.textOf [closeBlock] := by
    simp [continued, closeBlock, closeBlockForm, template, Line.chars, fill]
  rw [blockText, String.toList_append, String.toList_append, String.toList_append, hopening,
    toList_bindingLine, htrials, hclosing, ← Line.textOf_append, ← Line.textOf_append,
    ← Line.textOf_append]
  rfl

@[simp] theorem toList_dispatch (h : Header) :
    h.dispatch.toList = Line.textOf (Layout.dispatch h) :=
  toList_join_map (toList_blockText h.schema) h.blocks

@[simp] theorem toList_terminalCheck (s : Schema) :
    (terminalCheck s).toList = Line.textOf (Layout.terminalCheck s) := by
  simp [terminalCheck, continued, Schema.inScope, Layout.terminalCheck, condition, conditionForm,
    error, errorForm, template, Line.chars, fill]

/-- The definition of the report macro. -/
theorem toList_macro (h : Header) :
    (continued ("#define " ++ h.schema.reportMacro ++ "(parser)") ++ countLine h.schema
        ++ h.dispatch ++ terminalCheck h.schema).toList
      = Line.textOf (macroLines h) := by
  have hfirst : (continued ("#define " ++ h.schema.reportMacro ++ "(parser)")
      ++ countLine h.schema).toList
      = Line.textOf [macroStart h.schema, count h.schema] := by
    simp [continued, countLine, macroStart, macroForm, count, countForm, template, Line.chars,
      fill]
  rw [String.toList_append, String.toList_append, hfirst, toList_dispatch, toList_terminalCheck,
    ← Line.textOf_append, ← Line.textOf_append]
  rfl

/-! ### The whole text -/

theorem quantity_error (count : Nat) :
    quantity count "error kind" = toString count ++ " error " ++ plural count "kind" := by
  unfold quantity plural
  split <;> simp [← String.toList_inj]

theorem quantity_warning (count : Nat) :
    quantity count "warning slot" = toString count ++ " warning " ++ plural count "slot" := by
  unfold quantity plural
  split <;> simp [← String.toList_inj]

@[simp] theorem toList_banner (h : Header) :
    h.banner.toList = Line.textOf [Layout.banner h, blank] := by
  unfold Header.banner
  rw [quantity_error, quantity_warning]
  simp [Layout.banner, bannerForm, blank, blankForm, template, Line.chars, fill]

theorem toList_newline : "\n".toList = Line.textOf [blank] := rfl

/-- The text before the definition of the report macro. -/
theorem toList_opening {h : Header} (hrows : h.rows ≠ []) :
    (h.banner ++ ("#ifndef " ++ h.schema.includeGuard ++ "\n#define " ++ h.schema.includeGuard
        ++ "\n\n") ++ h.ordinals ++ "\n" ++ h.markers ++ "\n" ++ h.specializations ++ "\n"
        ++ ("#ifndef " ++ h.schema.debugMacro ++ "\n\n")).toList
      = Line.textOf (opening h) := by
  have hguard : ("#ifndef " ++ h.schema.includeGuard ++ "\n#define " ++ h.schema.includeGuard
      ++ "\n\n").toList
      = Line.textOf [ifndef h.schema.includeGuard, define h.schema.includeGuard, blank] := by
    simp [ifndef, ifndefForm, define, defineForm, blank, blankForm, template, Line.chars, fill]
  have hdebug : ("#ifndef " ++ h.schema.debugMacro ++ "\n\n").toList
      = Line.textOf [ifndef h.schema.debugMacro, blank] := by
    simp [ifndef, ifndefForm, blank, blankForm, template, Line.chars, fill]
  simp only [String.toList_append, toList_banner, hguard, toList_ordinals hrows, toList_newline,
    toList_markers, toList_specializations, hdebug, ← Line.textOf_append]
  rw [opening]
  simp only [List.append_assoc, List.cons_append, List.nil_append]

/-- The text after it. -/
theorem toList_closing (h : Header) :
    ("\n#else\n\n#define " ++ h.schema.reportMacro ++ "(parser)\n\n#endif\n\n#endif\n").toList
      = Line.textOf (closing h) := by
  simp [closing, otherwise, elseForm, emptyMacro, emptyMacroForm, endif, endifForm, blank,
    blankForm, template, Line.chars, fill]

/-- The text of a header is its lines. -/
theorem toList_text {h : Header} (hrows : h.rows ≠ []) :
    h.text.toList = Line.textOf (lines h) := by
  -- the report section starts with a test of the debug macro and ends with its `#endif`
  have hsplit : h.text
      = (h.banner ++ ("#ifndef " ++ h.schema.includeGuard ++ "\n#define "
          ++ h.schema.includeGuard ++ "\n\n") ++ h.ordinals ++ "\n" ++ h.markers ++ "\n"
          ++ h.specializations ++ "\n" ++ ("#ifndef " ++ h.schema.debugMacro ++ "\n\n"))
        ++ (continued ("#define " ++ h.schema.reportMacro ++ "(parser)") ++ countLine h.schema
          ++ h.dispatch ++ terminalCheck h.schema)
        ++ ("\n#else\n\n#define " ++ h.schema.reportMacro
          ++ "(parser)\n\n#endif\n\n#endif\n") := by
    rw [show "(parser)\n\n#endif\n\n#endif\n" = "(parser)\n\n#endif\n" ++ "\n#endif\n" from rfl]
    unfold Header.text Header.report
    simp only [String.append_assoc]
  rw [hsplit, String.toList_append, String.toList_append, toList_opening hrows, toList_macro,
    toList_closing, lines, Line.textOf_append, Line.textOf_append]

end ErrorScaffold.Header
