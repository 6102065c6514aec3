/-
The text of a header determines what the header was made from.

The forms of the lines depend on nothing but the number of kinds and the number of slots, and both
stand in the first line.  Two headers of the same text therefore have the same lines, and so the
same names in them:

* `text_eq_text_iff` — the texts are the same only for the same catalog, budget and schema; without
  kinds there are no trials, and the fields that only a trial mentions may differ.
-/
import ErrorScaffold.Proofs.Catalog.Building
import ErrorScaffold.Proofs.Header.ScopeNames
import Std.Data.String.ToNat

namespace ErrorScaffold

/-- The fields that only the trials mention. -/
def Schema.trialFields : List Field :=
  [.kindField, .rowField, .colField, .warningTemplate]

/-! ### Lines of the same text -/

namespace Line

theorem eq_of_names {line line' : Line} (hform : line.form = line'.form)
    (hnames : line.names = line'.names) : line = line' := by
  cases line
  cases line'
  cases hform
  cases hnames
  rfl

/-- Lines of one form are the same if they are the same text. -/
theorem eq_of_chars {line line' : Line} (h : line.IsNamed) (h' : line'.IsNamed)
    (hform : line.form = line'.form) (hchars : line.chars = line'.chars) : line = line' := by
  refine eq_of_names hform ?_
  have hread := read_chars h
  rw [hform, hchars, read_chars h'] at hread
  exact (Option.some.inj hread).symm

theorem eq_of_map_chars {ls ls' : List Line} (h : ∀ line ∈ ls, line.IsNamed)
    (h' : ∀ line ∈ ls', line.IsNamed) (hform : ls.map (·.form) = ls'.map (·.form))
    (hchars : ls.map chars = ls'.map chars) : ls = ls' := by
  induction ls generalizing ls' with
  | nil => exact (List.map_eq_nil_iff.1 hform.symm).symm
  | cons line ls ih =>
    cases ls' with
    | nil => cases hform
    | cons line' ls' =>
      rw [List.forall_mem_cons] at h h'
      rw [List.map_cons, List.map_cons, List.cons.injEq] at hform hchars
      rw [eq_of_chars h.1 h'.1 hform.1 hchars.1, ih h.2 h'.2 hform.2 hchars.2]

end Line

namespace Header

namespace Layout

/-! ### The forms depend on the counts -/

theorem map_form_enumerators {names names' : List String} (h : names.length = names'.length) :
    (enumerators names).map (·.form) = (enumerators names').map (·.form) := by
  induction names generalizing names' with
  | nil => rw [List.eq_nil_of_length_eq_zero h.symm]
  | cons name names ih =>
    -- the last enumerator has a form of its own, so both lists are looked into once more
    match names', h with
    | name' :: names', h =>
      have htail := Nat.succ.inj h
      cases names with
      | nil =>
        rw [List.eq_nil_of_length_eq_zero htail.symm]
        rfl
      | cons next names =>
        match names', htail with
        | next' :: names', htail =>
          rw [enumerators_cons_cons, enumerators_cons_cons, List.map_cons, List.map_cons, ih htail]
          rfl

/-- The forms of the lines of a block. -/
def blockForms (trials : Nat) : List LineForm :=
  guardForm :: openBlockForm :: (if trials = 0 then [] else [bindingForm])
    ++ List.replicate trials trialForm ++ [closeBlockForm]

@[simp] theorem map_form_block (s : Schema) (b : Block) :
    (block s b).map (·.form) = blockForms b.trials.length := by
  have htrials : (b.trials.map (trial s)).map (·.form)
      = List.replicate b.trials.length trialForm := by
    rw [List.map_map]
    exact List.map_const'
  have hbindings : (bindings s b).map (·.form)
      = if b.trials.length = 0 then [] else [bindingForm] := by
    unfold bindings
    cases b.trials <;> rfl
  rw [block, List.map_append, List.map_append, List.map_cons, List.map_cons, htrials, hbindings]
  rfl

section

variable {h h' : Header} (hrows : h.rows.length = h'.rows.length)
include hrows

theorem map_form_ordinals : (ordinals h).map (·.form) = (ordinals h').map (·.form) := by
  have hnames : (enumerators (h.rows.map (·.enumerator))).map (·.form)
      = (enumerators (h'.rows.map (·.enumerator))).map (·.form) := by
    refine map_form_enumerators ?_
    simp [hrows]
  simp only [ordinals, List.map_append, List.map_cons, hnames]
  rfl

theorem map_form_markers : (markers h).map (·.form) = (markers h').map (·.form) := by
  rw [markers, markers, List.map_map, List.map_map]
  show h.rows.map (fun _ => markerForm) = h'.rows.map fun _ => markerForm
  rw [List.map_const', List.map_const', hrows]

theorem map_form_specializations :
    (specializations h).map (·.form) = (specializations h').map (·.form) := by
  simp only [specializations, List.map_cons, List.map_map]
  show _ :: _ :: h.rows.map (fun _ => specializationForm)
    = _ :: _ :: h'.rows.map fun _ => specializationForm
  rw [List.map_const', List.map_const', hrows]
  rfl

theorem map_form_opening : (opening h).map (·.form) = (opening h').map (·.form) := by
  simp only [opening, List.map_append, map_form_ordinals hrows, map_form_markers hrows,
    map_form_specializations hrows]
  rfl

end

theorem map_form_dispatch {h h' : Header}
    (hblocks : h.blocks.map (·.trials.length) = h'.blocks.map (·.trials.length)) :
    (dispatch h).map (·.form) = (dispatch h').map (·.form) := by
  have hforms : ∀ h : Header, (dispatch h).map (·.form)
      = (h.blocks.map (·.trials.length)).flatMap blockForms := by
    intro h
    rw [dispatch, List.map_flatMap, List.flatMap_map]
    simp only [map_form_block]
  rw [hforms, hforms, hblocks]

theorem map_form_macroLines {h h' : Header}
    (hblocks : h.blocks.map (·.trials.length) = h'.blocks.map (·.trials.length)) :
    (macroLines h).map (·.form) = (macroLines h').map (·.form) := by
  simp only [macroLines, List.map_append, List.map_cons, map_form_dispatch hblocks]
  rfl

/-- Headers of as many rows and as many trials in each block have lines of the same forms. -/
theorem map_form_lines {h h' : Header} (hrows : h.rows.length = h'.rows.length)
    (hblocks : h.blocks.map (·.trials.length) = h'.blocks.map (·.trials.length)) :
    (lines h).map (·.form) = (lines h').map (·.form) := by
  simp only [lines, List.map_append, map_form_opening hrows, map_form_macroLines hblocks]
  rfl

end Layout

/-! ### Headers of the same text -/

section

variable {u u' : UsableSchema} {c c' : Catalog} {budget budget' : SlotBudget}

theorem toList_text_build (s : Schema) (c : Catalog) (budget : SlotBudget) :
    (build s c budget).text.toList = Line.textOf (Layout.lines (build s c budget)) :=
  toList_text (OrdinalRow.table_ne_nil _ _)

theorem map_chars_eq
    (h : (build u.schema c budget).text = (build u'.schema c' budget').text) :
    (Layout.lines (build u.schema c budget)).map Line.chars
      = (Layout.lines (build u'.schema c' budget')).map Line.chars := by
  have hnewline : ∀ (u : UsableSchema) (c : Catalog) (budget : SlotBudget),
      ∀ l ∈ (Layout.lines (build u.schema c budget)).map Line.chars, '\n' ∉ l := by
    intro u c budget l hl
    obtain ⟨line, hline, rfl⟩ := List.mem_map.1 hl
    exact Line.newline_not_mem (Layout.isNamed_of_mem_lines (isNamed_build u c budget) line hline)
  refine Text.unlines_injective (hnewline u c budget) (hnewline u' c' budget') ?_
  have hlist := congrArg String.toList h
  rw [toList_text_build, toList_text_build] at hlist
  exact hlist

/-- The first line gives the counts. -/
theorem counts_eq (h : (build u.schema c budget).text = (build u'.schema c' budget').text) :
    c.size = c'.size ∧ budget.slots = budget'.slots := by
  -- the form of the first line is the same whatever the counts
  have hchars := (List.cons.inj (map_chars_eq h)).1
  have hbanner : Layout.banner (build u.schema c budget)
      = Layout.banner (build u'.schema c' budget') :=
    Line.eq_of_chars (Layout.isNamed_banner _) (Layout.isNamed_banner _) rfl hchars
  have hnames := congrArg Line.names hbanner
  simp only [Layout.banner, slotCount_build, List.cons.injEq, and_true] at hnames
  obtain ⟨hkinds, -, hslots, -⟩ := hnames
  exact ⟨Nat.repr_injective hkinds, Nat.repr_injective hslots⟩

@[simp] theorem length_rows (s : Schema) (c : Catalog) (budget : SlotBudget) :
    (build s c budget).rows.length = c.size + 1 :=
  OrdinalRow.length_table s c

theorem lines_eq (h : (build u.schema c budget).text = (build u'.schema c' budget').text) :
    Layout.lines (build u.schema c budget) = Layout.lines (build u'.schema c' budget') := by
  obtain ⟨hsize, hslots⟩ := counts_eq h
  have hblocks : ∀ (s : Schema) (c : Catalog) (budget : SlotBudget),
      (build s c budget).blocks.map (·.trials.length) = List.replicate budget.slots c.size := by
    intro s c budget
    simp [build, Function.comp_def, Catalog.size]
  refine Line.eq_of_map_chars (Layout.isNamed_of_mem_lines (isNamed_build u c budget))
    (Layout.isNamed_of_mem_lines (isNamed_build u' c' budget'))
    (Layout.map_form_lines ?_ ?_) (map_chars_eq h)
  · rw [length_rows, length_rows, hsize]
  · rw [hblocks, hblocks, hsize, hslots]

/-- What is declared gives the catalog and the names of the declarations. -/
theorem declared_eq (h : (build u.schema c budget).text = (build u'.schema c' budget').text) :
    (u.schema.includeGuard = u'.schema.includeGuard ∧ u.schema.enumName = u'.schema.enumName) ∧
    u.schema.ordinalPrefix = u'.schema.ordinalPrefix ∧
    (u.schema.sentinel = u'.schema.sentinel ∧ c.kinds = c'.kinds) ∧
    u.schema.mapping = u'.schema.mapping ∧ u.schema.debugMacro = u'.schema.debugMacro ∧
    u.schema.reportMacro = u'.schema.reportMacro := by
  obtain ⟨hsize, -⟩ := counts_eq h
  have hnames : (build u.schema c budget).scopeNames = (build u'.schema c' budget').scopeNames := by
    rw [← declaredNames_build u c budget, h, declaredNames_build u' c' budget']
  have hscope : ∀ (s : Schema) (c : Catalog) (budget : SlotBudget),
      (build s c budget).scopeNames
        = [s.includeGuard, s.enumName] ++ (s.sentinel :: c.kinds).map s.enumerator
          ++ (s.sentinel :: c.kinds) ++ [s.mapping, s.debugMacro, s.reportMacro] := by
    intro s c budget
    simp [scopeNames]
  have hlength : (u.schema.sentinel :: c.kinds).length = (u'.schema.sentinel :: c'.kinds).length :=
    congrArg Nat.succ hsize
  -- as many names on both sides, so the parts can be taken off from both ends
  rw [hscope, hscope] at hnames
  obtain ⟨hfront, hlast⟩ := List.append_inj' hnames rfl
  obtain ⟨hfront, hmarkers⟩ := List.append_inj' hfront hlength
  obtain ⟨hfirst, henumerators⟩ := List.append_inj hfront rfl
  rw [List.cons.injEq] at hmarkers
  -- the sentinel's enumerator ends in the sentinel, which leaves the prefix
  have hprefix := (List.cons.inj henumerators).1
  rw [Schema.enumerator, Schema.enumerator, hmarkers.1, String.append_left_inj] at hprefix
  simp only [List.cons.injEq, and_true] at hfirst hlast
  exact ⟨hfirst, hprefix, hmarkers, hlast⟩

theorem macroLines_eq (h : (build u.schema c budget).text = (build u'.schema c' budget').text) :
    Layout.macroLines (build u.schema c budget)
      = Layout.macroLines (build u'.schema c' budget') := by
  have hlines := lines_eq h
  have hrows : (build u.schema c budget).rows.length
      = (build u'.schema c' budget').rows.length := by
    rw [length_rows, length_rows, (counts_eq h).1]
  have hopening := congrArg List.length (Layout.map_form_opening hrows)
  rw [List.length_map, List.length_map] at hopening
  -- as many lines come after the macro in any header, and before it for as many rows
  rw [Layout.lines, Layout.lines] at hlines
  obtain ⟨hfront, -⟩ := List.append_inj' hlines rfl
  exact (List.append_inj hfront hopening).2

/-- The macro gives the names of the parser's members and of the templates. -/
theorem macro_names_eq (h : (build u.schema c budget).text = (build u'.schema c' budget').text) :
    u.schema.warningsField = u'.schema.warningsField ∧
    (u.schema.errorRowField = u'.schema.errorRowField ∧
      u.schema.errorColField = u'.schema.errorColField) ∧
    u.schema.namespaceName = u'.schema.namespaceName ∧
    u.schema.ifTemplate = u'.schema.ifTemplate ∧
    u.schema.errorTemplate = u'.schema.errorTemplate ∧
    u.schema.errorKindField = u'.schema.errorKindField := by
  have hmacro := macroLines_eq h
  rw [Layout.macroLines, Layout.macroLines] at hmacro
  obtain ⟨hfront, hterminal⟩ := List.append_inj' hmacro rfl
  have hcount := congrArg Line.names (List.cons.inj (List.cons.inj hfront).2).1
  have hcondition := congrArg Line.names (List.cons.inj hterminal).1
  have herror := congrArg Line.names (List.cons.inj (List.cons.inj hterminal).2).1
  simp only [Layout.count, Layout.condition, Layout.error, List.cons.injEq, and_true]
    at hcount hcondition herror
  obtain ⟨hnamespace, hif, -, htemplate, -, -, -, -, hkind⟩ := herror
  exact ⟨hcount, hcondition, hnamespace, hif, htemplate, hkind⟩

/-- The fourth line of the dispatch is the first trial. -/
theorem getElem?_dispatch {s : Schema} {kind : String} {kinds : List String}
    (hkinds : c.kinds = kind :: kinds) :
    (Layout.dispatch (build s c budget))[3]? = some (Layout.trial s (s.enumerator kind)) := by
  obtain ⟨_ | slots, hpositive⟩ := budget
  · cases hpositive
  · rw [Layout.dispatch, build, List.range_succ_eq_map, hkinds]
    rfl

theorem trial_names_eq (h : (build u.schema c budget).text = (build u'.schema c' budget').text)
    (hkinds : c.kinds ≠ []) :
    u.schema.kindField = u'.schema.kindField ∧ u.schema.rowField = u'.schema.rowField ∧
    u.schema.colField = u'.schema.colField ∧
    u.schema.warningTemplate = u'.schema.warningTemplate := by
  obtain ⟨kind, kinds, hcons⟩ := List.ne_nil_iff_exists_cons.1 hkinds
  obtain ⟨-, -, ⟨-, hcatalog⟩, -⟩ := declared_eq h
  have hmacro := macroLines_eq h
  rw [Layout.macroLines, Layout.macroLines] at hmacro
  obtain ⟨hfront, -⟩ := List.append_inj' hmacro rfl
  -- a guard, a brace and a binding come before the first trial
  have hdispatch := (List.cons.inj (List.cons.inj hfront).2).2
  have htrial := congrArg (fun ls => ls[3]?) hdispatch
  simp only [getElem?_dispatch hcons, getElem?_dispatch (hcatalog ▸ hcons)] at htrial
  have hnames := congrArg Line.names (Option.some.inj htrial)
  simp only [Layout.trial, List.cons.injEq, and_true] at hnames
  obtain ⟨-, -, hkind, -, -, -, hwarning, hrow, hcol, -, -, -⟩ := hnames
  exact ⟨hkind, hrow, hcol, hwarning⟩

theorem get_eq (h : (build u.schema c budget).text = (build u'.schema c' budget').text)
    {field : Schema.Field} (hfield : c = .empty → field ∉ Schema.trialFields) :
    u.schema.get field = u'.schema.get field := by
  obtain ⟨⟨hguard, henum⟩, hprefix, ⟨hsentinel, -⟩, hmapping, hdebug, hreport⟩ := declared_eq h
  obtain ⟨hwarnings, ⟨herrorRow, herrorCol⟩, hnamespace, hif, herror, herrorKind⟩ :=
    macro_names_eq h
  -- the fields of the trials are only read off where there is a kind
  have htrial : field ∈ Schema.trialFields →
      u.schema.kindField = u'.schema.kindField ∧ u.schema.rowField = u'.schema.rowField ∧
      u.schema.colField = u'.schema.colField ∧
      u.schema.warningTemplate = u'.schema.warningTemplate := by
    intro hmem
    refine trial_names_eq h fun hkinds => hfield ?_ hmem
    exact Catalog.ext_kinds hkinds
  cases field with
  | namespaceName => exact hnamespace
  | includeGuard => exact hguard
  | enumName => exact henum
  | ordinalPrefix => exact hprefix
  | sentinel => exact hsentinel
  | mapping => exact hmapping
  | reportMacro => exact hreport
  | debugMacro => exact hdebug
  | warningsField => exact hwarnings
  | kindField => exact (htrial (by decide)).1
  | rowField => exact (htrial (by decide)).2.1
  | colField => exact (htrial (by decide)).2.2.1
  | errorRowField => exact herrorRow
  | errorColField => exact herrorCol
  | errorKindField => exact herrorKind
  | warningTemplate => exact (htrial (by decide)).2.2.2
  | errorTemplate => exact herror
  | ifTemplate => exact hif

end

end Header

/-! ### What the text does not give -/

namespace Schema

/-- Schemas that agree on all other fields differ by setting the fields of the trials. -/
theorem eq_set_trialFields {s s' : Schema}
    (h : ∀ field, field ∉ trialFields → s.get field = s'.get field) :
    s' = (((s.set .kindField s'.kindField).set .rowField s'.rowField).set .colField
      s'.colField).set .warningTemplate s'.warningTemplate := by
  refine ext_get fun field => ?_
  by_cases hfield : field ∈ trialFields
  · simp only [trialFields, List.mem_cons, List.not_mem_nil, or_false] at hfield
    rcases hfield with rfl | rfl | rfl | rfl <;> rfl
  · -- a field that is none of the four stays through all four settings
    have hother := hfield
    simp only [trialFields, List.mem_cons, List.not_mem_nil, or_false, not_or] at hother
    obtain ⟨hkind, hrow, hcol, hwarning⟩ := hother
    simp [hkind, hrow, hcol, hwarning, h field hfield]

end Schema

namespace Header

/-- Without kinds no line mentions the fields of the trials. -/
theorem lines_set_trialField (s : Schema) {field : Schema.Field}
    (hfield : field ∈ Schema.trialFields) (value : String) (budget : SlotBudget) :
    Layout.lines (build (s.set field value) .empty budget)
      = Layout.lines (build s .empty budget) := by
  have hdispatch : Layout.dispatch (build (s.set field value) .empty budget)
      = Layout.dispatch (build s .empty budget) := by
    simp only [Layout.dispatch, build, List.flatMap_map]
    rfl
  have hbanner : Layout.banner (build (s.set field value) .empty budget)
      = Layout.banner (build s .empty budget) := by
    simp only [Layout.banner, slotCount_build]
    rfl
  simp only [Schema.trialFields, List.mem_cons, List.not_mem_nil, or_false] at hfield
  rw [Layout.lines, Layout.lines, Layout.opening, Layout.opening, Layout.macroLines,
    Layout.macroLines, hdispatch, hbanner]
  rcases hfield with rfl | rfl | rfl | rfl <;> rfl

/-- Schemas that differ in the fields of the trials only give the empty catalog the same text. -/
theorem text_eq_of_empty {s s' : Schema}
    (h : ∀ field, field ∉ Schema.trialFields → s.get field = s'.get field)
    (budget : SlotBudget) : (build s .empty budget).text = (build s' .empty budget).text := by
  rw [← String.toList_inj, toList_text_build, toList_text_build,
    Schema.eq_set_trialFields h, lines_set_trialField _ (by decide),
    lines_set_trialField _ (by decide), lines_set_trialField _ (by decide),
    lines_set_trialField _ (by decide)]

/-- **The text of a header determines the catalog, the budget and the schema.**  Only a header
without kinds leaves something open: the fields that the trials mention. -/
theorem text_eq_text_iff {u u' : UsableSchema} {c c' : Catalog} {budget budget' : SlotBudget}
    {h h' : Header} (hh : u.header c budget = .ok h) (hh' : u'.header c' budget' = .ok h') :
    h.text = h'.text ↔
      c = c' ∧ budget = budget' ∧
        ∀ field, (c = .empty → field ∉ Schema.trialFields) →
          u.schema.get field = u'.schema.get field := by
  obtain ⟨-, rfl⟩ := UsableSchema.header_eq_ok_iff.1 hh
  obtain ⟨-, rfl⟩ := UsableSchema.header_eq_ok_iff.1 hh'
  constructor
  · intro htext
    -- the declarations give the kinds, the first line the slots, and all lines the schema
    obtain ⟨-, -, ⟨-, hkinds⟩, -⟩ := declared_eq htext
    refine ⟨Catalog.ext_kinds hkinds, ?_, fun field hfield => get_eq htext hfield⟩
    have hslots := (counts_eq htext).2
    cases budget
    cases budget'
    cases hslots
    rfl
  · rintro ⟨rfl, rfl, hfields⟩
    by_cases hc : c = .empty
    · -- the trials' fields may differ, and no line mentions them
      subst hc
      exact text_eq_of_empty (fun field hfield => hfields field fun _ => hfield) budget
    · have hschema : u.schema = u'.schema :=
        Schema.ext_get fun field => hfields field fun hempty => absurd hempty hc
      rw [hschema]

/-- Another name for the row of a warning changes nothing in a header without kinds, and changes
the text of one that has some. -/
theorem text_eq_text_only_without_kinds :
    ∃ u u' : UsableSchema, (u.schema.rowField = "row" ∧ u'.schema.rowField = "line") ∧
      (∃ h h' : Header, u.header .empty .standard = .ok h ∧ u'.header .empty .standard = .ok h' ∧
        h.text = h'.text) ∧
      ∃ h h' : Header, u.header .seephit .standard = .ok h ∧
        u'.header .seephit .standard = .ok h' ∧ h.text ≠ h'.text := by
  let u' : UsableSchema := ⟨{ rowField := "line" }, by decide +kernel⟩
  have hempty : ∀ u : UsableSchema,
      u.header .empty .standard = .ok (build u.schema .empty .standard) := by
    intro u
    refine UsableSchema.header_of_accepts ?_
    intro name hname
    cases hname
  have hseephit : u'.header .seephit .standard = .ok (build u'.schema .seephit .standard) :=
    UsableSchema.header_of_accepts (UsableSchema.kindError?_eq_none_iff.1 (by decide +kernel))
  refine ⟨.standard, u', ⟨rfl, rfl⟩, ⟨_, _, hempty .standard, hempty u', ?_⟩,
    _, _, UsableSchema.header_seephit, hseephit, ?_⟩
  · refine (text_eq_text_iff (hempty .standard) (hempty u')).2 ⟨rfl, rfl, ?_⟩
    intro field hfield
    cases field
    all_goals first
      | rfl
      | exact absurd (by decide) (hfield rfl)
  · intro htext
    obtain ⟨-, -, hfields⟩ := (text_eq_text_iff UsableSchema.header_seephit hseephit).1 htext
    -- the trials of the kinds mention the row
    have hkinds : Catalog.seephit ≠ .empty := fun h => nomatch congrArg Catalog.kinds h
    have hrow : "row" = "line" := hfields .rowField fun h => absurd h hkinds
    exact absurd hrow (by decide)

end Header

end ErrorScaffold
