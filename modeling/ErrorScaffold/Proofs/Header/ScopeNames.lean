/-
The names that a header declares.

`Header.scopeNames` lists what a header puts at namespace or macro scope, in the order of the text,
and `declaredNames_text` reads the same names off the text.  Acceptance compares the names of the
kinds with each other and with what the schema takes, but not the schema's own names:

* `scopeNames_distinct_and_usable` — nothing clashes with the names of a kind, so that all names
  are distinct as soon as the schema's own are, and all but the sentinel's enumerator are usable.
-/
import ErrorScaffold.Proofs.Header.Words

namespace ErrorScaffold

open Identifier

/-- The names of a header that are there whatever the catalog. -/
def Schema.scopeNames (s : Schema) : List String :=
  [s.includeGuard, s.enumName, s.enumerator s.sentinel, s.sentinel, s.mapping, s.debugMacro,
    s.reportMacro]

namespace Header

/-- The names at namespace or macro scope, and the debug macro that is tested there. -/
def scopeNames (h : Header) : List String :=
  [h.schema.includeGuard, h.schema.enumName] ++ h.rows.map (·.enumerator)
    ++ h.rows.map (·.marker) ++ [h.schema.mapping, h.schema.debugMacro, h.schema.reportMacro]

/-! ### Reading the names off the text -/

namespace Layout

/-- The forms of the lines that bring in a name, each as its last word. -/
def declaringForms : List LineForm :=
  [ifndefForm, enumForm, enumeratorForm, lastEnumeratorForm, markerForm, primaryForm, macroForm]

/-- The forms of all other lines. -/
def silentForms : List LineForm :=
  [bannerForm, blankForm, defineForm, openForm, closeForm, specializationForm, countForm,
    guardForm, openBlockForm, bindingForm, trialForm, closeBlockForm, conditionForm, errorForm,
    elseForm, emptyMacroForm, endifForm]

end Layout

/-- The name that a line brings in. -/
def declaredName? (line : List Char) : Option String :=
  (Layout.declaringForms.findSome? fun form => form.read line).bind List.getLast?

/-- The names that the lines of a text bring in. -/
def declaredNames (text : String) : List String :=
  (Text.lines text.toList).filterMap declaredName?

namespace Layout

theorem clashes_declaringForms :
    ∀ written ∈ declaringForms, ∀ reading ∈ declaringForms,
      reading = written ∨ LineForm.clashes reading.symbols written.symbols = true := by
  decide

theorem clashes_silentForms :
    ∀ written ∈ silentForms, ∀ reading ∈ declaringForms,
      LineForm.clashes reading.symbols written.symbols = true := by
  decide

theorem declaredName?_of_mem {line : Line} (hn : line.IsNamed)
    (hform : line.form ∈ declaringForms) : declaredName? line.chars = line.names.getLast? := by
  rw [declaredName?, Line.findSome?_read hn (clashes_declaringForms _ hform) hform]
  rfl

theorem declaredName?_eq_none {line : Line} (hn : line.IsNamed)
    (hform : line.form ∈ silentForms) : declaredName? line.chars = none := by
  have hread : declaringForms.findSome? (fun form => form.read line.chars) = none := by
    rw [List.findSome?_eq_none_iff]
    intro reading hreading
    exact Line.read_chars_of_clashes hn (clashes_silentForms _ hform reading hreading)
  rw [declaredName?, hread]
  rfl

/-- These names can be read off these lines. -/
def Declare (ls : List Line) (names : List String) : Prop :=
  (∀ line ∈ ls, line.IsNamed) → (ls.map Line.chars).filterMap declaredName? = names

theorem Declare.append {ls ls' : List Line} {names names' : List String}
    (h : Declare ls names) (h' : Declare ls' names') :
    Declare (ls ++ ls') (names ++ names') := by
  intro hn
  rw [List.forall_mem_append] at hn
  rw [List.map_append, List.filterMap_append, h hn.1, h' hn.2]

theorem Declare.of_silent {ls : List Line} (h : ∀ form ∈ ls.map (·.form), form ∈ silentForms) :
    Declare ls [] := by
  intro hn
  rw [List.filterMap_eq_nil_iff]
  intro l hl
  obtain ⟨line, hline, rfl⟩ := List.mem_map.1 hl
  exact declaredName?_eq_none (hn line hline) (h line.form (List.mem_map_of_mem hline))

theorem Declare.singleton {line : Line} {name : String} (hform : line.form ∈ declaringForms)
    (hname : line.names.getLast? = some name) : Declare [line] [name] := by
  intro hn
  rw [List.forall_mem_singleton] at hn
  rw [List.map_singleton, List.filterMap_cons_some ((declaredName?_of_mem hn hform).trans hname)]
  rfl

theorem Declare.map {α : Type} {f : α → Line} {name : α → String}
    (h : ∀ a, Declare [f a] [name a]) (as : List α) : Declare (as.map f) (as.map name) := by
  induction as with
  | nil => exact fun _ => rfl
  | cons a as ih => exact (h a).append ih

/-! ### The names of each section -/

theorem declare_enumerators (names : List String) : Declare (enumerators names) names := by
  induction names with
  | nil => exact fun _ => rfl
  | cons name names ih =>
    cases names with
    | nil => exact .singleton (by simp [lastEnumerator, declaringForms]) rfl
    | cons next names =>
      have hfirst : Declare [enumerator name] [name] :=
        .singleton (by simp [enumerator, declaringForms]) rfl
      rw [enumerators_cons_cons]
      exact hfirst.append ih

theorem declare_ordinals (h : Header) :
    Declare (ordinals h) (h.schema.enumName :: h.rows.map (·.enumerator)) := by
  have hfirst : Declare [enumeration h.schema] [h.schema.enumName] :=
    .singleton (by simp [enumeration, declaringForms]) rfl
  have hopen : Declare [openList] [] := .of_silent (by simp [openList, silentForms])
  have hclose : Declare [closeList] [] := .of_silent (by simp [closeList, silentForms])
  have hnames := declare_enumerators (h.rows.map (·.enumerator))
  have hall := ((hfirst.append hopen).append hnames).append hclose
  rwa [List.append_nil] at hall

theorem declare_markers (h : Header) : Declare (markers h) (h.rows.map (·.marker)) := by
  exact .map (fun row => .singleton (by simp [marker, declaringForms]) rfl) h.rows

theorem declare_specializations (h : Header) :
    Declare (specializations h) [h.schema.mapping] := by
  -- a specialization names the template again and brings in nothing
  have hprimary : Declare [primary h.schema] [h.schema.mapping] :=
    .singleton (by simp [primary, declaringForms]) rfl
  have hrest : Declare (blank :: h.rows.map (specialization h.schema)) [] := by
    refine .of_silent fun form hform => ?_
    rw [List.map_cons, List.map_map, List.mem_cons, List.mem_map] at hform
    rcases hform with rfl | ⟨row, -, rfl⟩
    · simp [blank, silentForms]
    · simp [specialization, silentForms]
  exact hprimary.append hrest

theorem declare_dispatch (h : Header) : Declare (dispatch h) [] := by
  have hsilent : ∀ form ∈ [guardForm, openBlockForm, bindingForm, trialForm, closeBlockForm],
      form ∈ silentForms := by simp [silentForms]
  refine .of_silent (List.forall_mem_map.2 fun line hline => ?_)
  exact hsilent _ (form_of_mem_dispatch hline)

theorem declare_opening (h : Header) :
    Declare (opening h)
      ([h.schema.includeGuard, h.schema.enumName] ++ h.rows.map (·.enumerator)
        ++ h.rows.map (·.marker) ++ [h.schema.mapping, h.schema.debugMacro]) := by
  have hblank : Declare [blank] [] := .of_silent (by simp [blank, silentForms])
  have hbanner : Declare [banner h, blank] [] :=
    .of_silent (by simp [banner, blank, silentForms])
  have hguard : Declare [ifndef h.schema.includeGuard] [h.schema.includeGuard] :=
    .singleton (by simp [ifndef, declaringForms]) rfl
  have hdefine : Declare [define h.schema.includeGuard, blank] [] :=
    .of_silent (by simp [define, blank, silentForms])
  have hdebug : Declare [ifndef h.schema.debugMacro] [h.schema.debugMacro] :=
    .singleton (by simp [ifndef, declaringForms]) rfl
  have hstart := (hbanner.append hguard).append hdefine
  -- the sections in their order, with the lines that declare nothing between them
  have hsections := ((((hstart.append (declare_ordinals h)).append hblank).append
    (declare_markers h)).append hblank).append (declare_specializations h)
  have hall := hsections.append ((hblank.append hdebug).append hblank)
  have hnames : ([h.schema.includeGuard, h.schema.enumName] ++ h.rows.map (·.enumerator)
      ++ h.rows.map (·.marker) ++ [h.schema.mapping, h.schema.debugMacro])
      = [] ++ [h.schema.includeGuard] ++ [] ++ (h.schema.enumName :: h.rows.map (·.enumerator))
        ++ [] ++ h.rows.map (·.marker) ++ [] ++ [h.schema.mapping]
        ++ ([] ++ [h.schema.debugMacro] ++ []) := by
    simp
  rw [hnames]
  exact hall

theorem declare_macroLines (h : Header) : Declare (macroLines h) [h.schema.reportMacro] := by
  have hstart : Declare [macroStart h.schema] [h.schema.reportMacro] :=
    .singleton (by simp [macroStart, declaringForms]) rfl
  have hcount : Declare [count h.schema] [] :=
    .of_silent (by simp [count, silentForms])
  have hterminal : Declare (terminalCheck h.schema) [] :=
    .of_silent (by simp [terminalCheck, condition, error, silentForms])
  exact ((hstart.append hcount).append (declare_dispatch h)).append hterminal

theorem declare_closing (h : Header) : Declare (closing h) [] :=
  .of_silent (by simp [closing, blank, otherwise, emptyMacro, endif, silentForms])

end Layout

/-- The text declares the names of the header, in this order and nothing else. -/
theorem declaredNames_text {h : Header} (hn : h.IsNamed) (hrows : h.rows ≠ []) :
    declaredNames h.text = h.scopeNames := by
  have hall := ((Layout.declare_opening h).append (Layout.declare_macroLines h)).append
    (Layout.declare_closing h)
  have hnamed := Layout.isNamed_of_mem_lines hn
  have hlast : declaredName? [] = none := by decide
  rw [declaredNames, toList_text hrows, Line.filterMap_lines_textOf hlast hnamed, Layout.lines,
    hall hnamed, scopeNames]
  simp

/-! ### Clashes -/

end Header

theorem Schema.eq_of_mem_scopeNames {s : Schema} {name : String} (h : name ∈ s.scopeNames) :
    name = s.enumerator s.sentinel ∨ ∃ field ∈ takenFields, s.get field = name := by
  simp only [scopeNames, List.mem_cons, List.not_mem_nil, or_false] at h
  -- all of them but the third are fields as they stand
  rcases h with rfl | rfl | rfl | rfl | rfl | rfl | rfl
  · exact Or.inr ⟨.includeGuard, by simp [takenFields], rfl⟩
  · exact Or.inr ⟨.enumName, by simp [takenFields], rfl⟩
  · exact Or.inl rfl
  · exact Or.inr ⟨.sentinel, by simp [takenFields], rfl⟩
  · exact Or.inr ⟨.mapping, by simp [takenFields], rfl⟩
  · exact Or.inr ⟨.debugMacro, by simp [takenFields], rfl⟩
  · exact Or.inr ⟨.reportMacro, by simp [takenFields], rfl⟩

namespace UsableSchema.Accepts

variable {u : UsableSchema} {c : Catalog} (h : u.Accepts c)
include h

/-- The names that the kinds bring in are all different. -/
theorem nodup_kindNames : (c.kinds.map u.schema.enumerator ++ c.kinds).Nodup := by
  refine List.nodup_append.2 ⟨c.distinct.map fun _ _ => Schema.enumerator_inj.1, c.distinct, ?_⟩
  rintro _ henumerator name hname rfl
  obtain ⟨other, hother, heq⟩ := List.mem_map.1 henumerator
  exact h.not_mem_enumerators hname (mem_enumerators.2 (Or.inr ⟨other, hother, heq.symm⟩))

/-- None of them is a name that is there whatever the catalog. -/
theorem not_mem_scopeNames {name : String}
    (hname : name ∈ c.kinds.map u.schema.enumerator ++ c.kinds) :
    name ∉ u.schema.scopeNames := by
  intro hscope
  rcases List.mem_append.1 hname with hname | hkind
  · obtain ⟨kind, hkind, rfl⟩ := List.mem_map.1 hname
    rcases Schema.eq_of_mem_scopeNames hscope with heq | ⟨field, hfield, heq⟩
    · rw [Schema.enumerator_inj.1 heq] at hkind
      exact h.sentinel_not_mem hkind
    · exact h.get_ne_enumerator hkind field hfield heq
  · rcases Schema.eq_of_mem_scopeNames hscope with heq | ⟨field, hfield, heq⟩
    · exact h.not_mem_enumerators hkind (mem_enumerators.2 (Or.inl heq))
    · exact h.get_ne hkind field hfield heq

end UsableSchema.Accepts

namespace Header

theorem declaredNames_build (u : UsableSchema) (c : Catalog) (budget : SlotBudget) :
    declaredNames (build u.schema c budget).text = (build u.schema c budget).scopeNames :=
  declaredNames_text (isNamed_build u c budget) (OrdinalRow.table_ne_nil _ _)

theorem scopeNames_perm (u : UsableSchema) (c : Catalog) (budget : SlotBudget) :
    (build u.schema c budget).scopeNames.Perm
      (u.schema.scopeNames ++ (c.kinds.map u.schema.enumerator ++ c.kinds)) := by
  -- only the sentinel's names change their places, so counting is easier than moving them
  rw [List.perm_iff_count]
  intro name
  simp [scopeNames, Schema.scopeNames, List.count_cons]
  omega

/-- **No clash, and no unusable name, comes from the catalog.**  The text declares the names of the
header.  Whatever the schema, the names of a kind are declared once and for nothing else, so that
all names are distinct if and only if the schema's own are; and every name but the sentinel's
enumerator, which is not asked to be one, is a usable identifier. -/
theorem scopeNames_distinct_and_usable {u : UsableSchema} {c : Catalog} {budget : SlotBudget}
    {h : Header} (hh : u.header c budget = .ok h) :
    declaredNames h.text = h.scopeNames ∧
    (h.scopeNames.Nodup ↔ u.schema.scopeNames.Nodup) ∧
    (∀ kind ∈ c.kinds, h.scopeNames.count kind = 1 ∧
      h.scopeNames.count (u.schema.enumerator kind) = 1) ∧
    ∀ name ∈ h.scopeNames, name ≠ u.schema.enumerator u.schema.sentinel →
      Identifier.check name = .ok () := by
  obtain ⟨haccepts, rfl⟩ := UsableSchema.header_eq_ok_iff.1 hh
  have hperm := scopeNames_perm u c budget
  have hkinds := haccepts.nodup_kindNames
  -- the names of the kinds are apart from those of the schema, and from each other
  have hcount : ∀ name ∈ c.kinds.map u.schema.enumerator ++ c.kinds,
      (build u.schema c budget).scopeNames.count name = 1 := by
    intro name hname
    rw [hperm.count_eq, List.count_append,
      List.count_eq_zero_of_not_mem (haccepts.not_mem_scopeNames hname),
      List.count_eq_one_of_mem hkinds hname]
  refine ⟨declaredNames_build u c budget, ?_, ?_, ?_⟩
  · rw [hperm.nodup_iff, List.nodup_append]
    constructor
    · exact fun hall => hall.1
    · intro hscope
      refine ⟨hscope, hkinds, ?_⟩
      rintro _ hown name hname rfl
      exact haccepts.not_mem_scopeNames hname hown
  · intro kind hkind
    exact ⟨hcount kind (List.mem_append_right _ hkind),
      hcount _ (List.mem_append_left _ (List.mem_map_of_mem hkind))⟩
  · intro name hname hne
    rw [check_eq_ok_iff]
    -- a name of the schema was checked with its field, one of a kind with the catalog
    rcases List.mem_append.1 (hperm.mem_iff.1 hname) with hown | hname
    · rcases Schema.eq_of_mem_scopeNames hown with heq | ⟨field, hfield, rfl⟩
      · exact absurd heq hne
      · refine u.defect?_get field ?_
        rintro rfl
        exact absurd hfield (by decide)
    · rcases List.mem_append.1 hname with hname | hkind
      · obtain ⟨kind, hkind, rfl⟩ := List.mem_map.1 hname
        exact haccepts.defect?_enumerator hkind
      · exact c.usable name hkind

/-- The built-in header declares distinct names. -/
theorem nodup_declaredNames_seephit :
    ∃ h, UsableSchema.standard.header .seephit .standard = .ok h ∧
      (declaredNames h.text).Nodup := by
  have hspec := scopeNames_distinct_and_usable UsableSchema.header_seephit
  refine ⟨_, UsableSchema.header_seephit, ?_⟩
  rw [hspec.1]
  exact hspec.2.1.2 (by decide +kernel)

/-- A schema may give its own names twice, and a sentinel with which the enumerators' prefix makes
a reserved name. -/
theorem scopeNames_of_careless_schema :
    (∃ u c budget h, u.schema = { includeGuard := "SPT_DEBUG" } ∧
      (c.kinds = ["A"] ∧ budget.slots = 1) ∧ UsableSchema.header u c budget = .ok h ∧
      ¬h.scopeNames.Nodup) ∧
    ∃ u c budget h, u.schema = { ordinalPrefix := "a_", sentinel := "_b" } ∧
      (c.kinds = ["A"] ∧ budget.slots = 1) ∧ UsableSchema.header u c budget = .ok h ∧
      "a__b" ∈ h.scopeNames ∧ Identifier.check "a__b" ≠ .ok () := by
  let c : Catalog := ⟨["A"], by decide +kernel, by decide +kernel⟩
  let budget : SlotBudget := ⟨1, Nat.one_pos⟩
  constructor
  · -- one macro for the include guard and for debugging
    let u : UsableSchema := ⟨{ includeGuard := "SPT_DEBUG" }, by decide +kernel⟩
    have haccepts : u.Accepts c :=
      UsableSchema.kindError?_eq_none_iff.1 (by decide +kernel)
    exact ⟨u, c, budget, _, rfl, ⟨rfl, rfl⟩, UsableSchema.header_of_accepts haccepts,
      by decide +kernel⟩
  · -- neither name has two underscores in a row, but together they do
    let u : UsableSchema :=
      ⟨{ ordinalPrefix := "a_", sentinel := "_b" }, by decide +kernel⟩
    have haccepts : u.Accepts c :=
      UsableSchema.kindError?_eq_none_iff.1 (by decide +kernel)
    exact ⟨u, c, budget, _, rfl, ⟨rfl, rfl⟩, UsableSchema.header_of_accepts haccepts,
      by decide +kernel, by decide +kernel⟩

end Header

end ErrorScaffold
