/-
What the whole text of a header lists.

The lines of a header can be told apart by their forms, so that the enumerators and the guards can
be read off the text without cutting it into sections first.

* `Reading.enumerators_text` — the enumerators;
* `Reading.guards_text` — the indices of the guarded blocks.
-/
import ErrorScaffold.Proofs.Header.Reading

namespace ErrorScaffold

open Header

namespace Header.Layout

/-! ### Lines around the enumeration and around the blocks -/

/-- The lines before the enumeration. -/
def beforeOrdinals (h : Header) : List Line :=
  [banner h, blank, ifndef h.schema.includeGuard, define h.schema.includeGuard, blank]

/-- The lines after it. -/
def afterOrdinals (h : Header) : List Line :=
  blank :: markers h ++ blank :: specializations h
    ++ [blank, ifndef h.schema.debugMacro, blank] ++ macroLines h ++ closing h

theorem lines_eq_ordinals (h : Header) :
    lines h = beforeOrdinals h ++ ordinals h ++ afterOrdinals h := by
  simp only [lines, opening, beforeOrdinals, afterOrdinals, List.append_assoc, List.cons_append,
    List.nil_append]

/-- The forms of the lines around the enumeration. -/
def surroundingForms : List LineForm :=
  [bannerForm, blankForm, ifndefForm, defineForm, markerForm, primaryForm, specializationForm,
    macroForm, countForm, guardForm, openBlockForm, bindingForm, trialForm, closeBlockForm,
    conditionForm, errorForm, elseForm, emptyMacroForm, endifForm]

theorem form_of_mem_beforeOrdinals {h : Header} :
    ∀ line ∈ beforeOrdinals h, line.form ∈ surroundingForms := by
  simp [beforeOrdinals, banner, blank, ifndef, define, surroundingForms]

theorem form_of_mem_afterOrdinals {h : Header} :
    ∀ line ∈ afterOrdinals h, line.form ∈ surroundingForms := by
  have hmarkers : ∀ line ∈ markers h, line.form ∈ surroundingForms := by
    intro line hline
    have hsub : [markerForm] ⊆ surroundingForms := by simp [surroundingForms]
    exact hsub (form_of_mem_markers hline)
  have hspecializations : ∀ line ∈ specializations h, line.form ∈ surroundingForms := by
    intro line hline
    have hsub : [primaryForm, blankForm, specializationForm] ⊆ surroundingForms := by
      simp [surroundingForms]
    exact hsub (form_of_mem_specializations hline)
  have hdispatch : ∀ line ∈ dispatch h, line.form ∈ surroundingForms := by
    intro line hline
    have hsub : [guardForm, openBlockForm, bindingForm, trialForm, closeBlockForm]
        ⊆ surroundingForms := by simp [surroundingForms]
    exact hsub (form_of_mem_dispatch hline)
  -- the three lists have their forms; what is left are single lines
  simp only [afterOrdinals, macroLines, List.forall_mem_append, List.forall_mem_cons,
    List.not_mem_nil, false_implies, implies_true, and_true]
  refine ⟨⟨⟨⟨⟨?_, hmarkers⟩, ?_, hspecializations⟩, ?_⟩, ⟨?_, ?_, hdispatch⟩, ?_⟩, ?_⟩
  all_goals
    simp [surroundingForms, blank, ifndef, macroStart, count, terminalCheck, condition, error,
      closing, otherwise, emptyMacro, endif]

/-- The lines before the blocks. -/
def beforeDispatch (h : Header) : List Line :=
  opening h ++ [macroStart h.schema, count h.schema]

/-- The lines after them. -/
def afterDispatch (h : Header) : List Line :=
  terminalCheck h.schema ++ closing h

theorem lines_eq_dispatch (h : Header) :
    lines h = beforeDispatch h ++ dispatch h ++ afterDispatch h := by
  simp only [lines, macroLines, beforeDispatch, afterDispatch, List.append_assoc,
    List.cons_append, List.nil_append]

/-- The forms of the lines around the blocks. -/
def frameForms : List LineForm :=
  openingForms
    ++ [macroForm, countForm, conditionForm, errorForm, elseForm, emptyMacroForm, endifForm]

theorem form_of_mem_beforeDispatch {h : Header} :
    ∀ line ∈ beforeDispatch h, line.form ∈ frameForms := by
  rw [beforeDispatch, List.forall_mem_append]
  constructor
  · exact fun line hline => List.mem_append_left _ (form_of_mem_opening line hline)
  · simp [frameForms, macroStart, count]

theorem form_of_mem_afterDispatch {h : Header} :
    ∀ line ∈ afterDispatch h, line.form ∈ frameForms := by
  simp [afterDispatch, terminalCheck, condition, error, closing, blank, otherwise, emptyMacro,
    endif, frameForms, openingForms]

end Header.Layout

namespace Reading

/-- Lines that a reader cannot read come to nothing. -/
theorem filterMap_chars_eq_nil {α : Type} {read? : List Char → Option α} {forms : List LineForm}
    (hread : ∀ line : Line, line.IsNamed → line.form ∈ forms → read? line.chars = none)
    {ls : List Line} (hn : ∀ line ∈ ls, line.IsNamed) (hforms : ∀ line ∈ ls, line.form ∈ forms) :
    (ls.map Line.chars).filterMap read? = [] := by
  rw [List.filterMap_eq_nil_iff]
  intro l hl
  obtain ⟨line, hline, rfl⟩ := List.mem_map.1 hl
  exact hread line (hn line hline) (hforms line hline)

/-- If only some lines of the text can be read, what is read of the text is read of them. -/
theorem filterMap_lines_text {α : Type} {read? : List Char → Option α} {forms : List LineForm}
    (hread : ∀ line : Line, line.IsNamed → line.form ∈ forms → read? line.chars = none)
    (hlast : read? [] = none) {h : Header} (hn : h.IsNamed) (hrows : h.rows ≠ [])
    {before part after : List Line} (hlines : Layout.lines h = before ++ part ++ after)
    (hbefore : ∀ line ∈ before, line.form ∈ forms)
    (hafter : ∀ line ∈ after, line.form ∈ forms) :
    (Text.lines h.text.toList).filterMap read? = (part.map Line.chars).filterMap read? := by
  have hnamed := Layout.isNamed_of_mem_lines hn
  rw [toList_text hrows, Line.filterMap_lines_textOf hlast hnamed]
  rw [hlines, List.forall_mem_append, List.forall_mem_append] at hnamed
  rw [hlines, List.map_append, List.map_append, List.filterMap_append, List.filterMap_append,
    filterMap_chars_eq_nil hread hnamed.1.1 hbefore, filterMap_chars_eq_nil hread hnamed.2 hafter,
    List.nil_append, List.append_nil]

/-! ### Reading the whole text -/

theorem clashes_surroundingForms :
    ∀ form ∈ Layout.surroundingForms,
      LineForm.clashes Layout.enumeratorForm.symbols form.symbols = true ∧
        LineForm.clashes Layout.lastEnumeratorForm.symbols form.symbols = true := by
  decide

theorem enumerator?_of_surrounding {line : Line} (hn : line.IsNamed)
    (hform : line.form ∈ Layout.surroundingForms) : enumerator? line.chars = none := by
  obtain ⟨hclash, hlast⟩ := clashes_surroundingForms _ hform
  rw [enumerator?, Line.read_chars_of_clashes hn hclash, Line.read_chars_of_clashes hn hlast]
  rfl

/-- The text lists the enumerators of the rows. -/
theorem enumerators_text {h : Header} (hn : h.IsNamed) (hrows : h.rows ≠ []) :
    (Text.lines h.text.toList).filterMap enumerator? = h.rows.map (·.enumerator) := by
  have hlast : enumerator? [] = none := by decide
  rw [filterMap_lines_text (fun _ => enumerator?_of_surrounding) hlast hn hrows
      (Layout.lines_eq_ordinals h) Layout.form_of_mem_beforeOrdinals
      Layout.form_of_mem_afterOrdinals,
    ← Line.filterMap_lines_textOf hlast (Layout.isNamed_ordinals hn), ← toList_ordinals hrows,
    enumerators_ordinals hn hrows]

theorem clashes_frameForms :
    ∀ form ∈ Layout.frameForms,
      LineForm.clashes Layout.guardForm.symbols form.symbols = true := by
  decide

theorem guard?_of_frame {line : Line} (hn : line.IsNamed)
    (hform : line.form ∈ Layout.frameForms) : guard? line.chars = none := by
  rw [guard?, Line.read_chars_of_clashes hn (clashes_frameForms _ hform)]

/-- Each guard starts a block. -/
theorem filterMap_guard? (ls : List (List Char)) :
    ls.filterMap guard? = (ls.foldr addLine ([], [])).2.map (·.slot) := by
  induction ls with
  | nil => rfl
  | cons l ls ih =>
    rw [List.foldr_cons, addLine]
    cases hguard : guard? l with
    | some slot => rw [List.filterMap_cons_some hguard, ih, List.map_cons]
    | none =>
      rw [List.filterMap_cons_none hguard, ih]
      cases trial? l <;> rfl

/-- The text has the guards of the blocks. -/
theorem guards_text {h : Header} (hn : h.IsNamed) (hrows : h.rows ≠ []) :
    (Text.lines h.text.toList).filterMap guard? = h.blocks.map (·.slot) := by
  have hlast : guard? [] = none := by decide
  rw [filterMap_lines_text (fun _ => guard?_of_frame) hlast hn hrows (Layout.lines_eq_dispatch h)
      Layout.form_of_mem_beforeDispatch Layout.form_of_mem_afterDispatch,
    ← Line.filterMap_lines_textOf hlast (Layout.isNamed_dispatch hn), ← toList_dispatch,
    filterMap_guard?, blocks_dispatch hn]

end Reading

end ErrorScaffold
