/-
What the text of a header reports.

`Reading.run` does what the report macro does with the sections that were read back: in each block
whose index has a recorded warning it tries every trial, and at the end it resolves the hard error.

* `Reading.run_eq_report` — for an accepted catalog this is what `Catalog.report` says: the trials
  of a block are distinct, and the one that fires is the first kind with the warning's ordinal.
-/
import ErrorScaffold.Proofs.Header.Reading
import ErrorScaffold.Proofs.Report.Slots
import ErrorScaffold.Proofs.Result

namespace ErrorScaffold

namespace Reading

/-! ### Expansion -/

/-- The marker type of an enumerator, which stands for an ordinal. -/
def markerOf (r : Reading) (ordinal : Ordinal) (enumerator : String) :
    Except ReportError String :=
  match r.mapping.lookup enumerator with
  | some marker => .ok marker
  | none => .error (.unmappedOrdinal ordinal)

/-- The marker type of the enumerator at the position of an ordinal. -/
def resolve (r : Reading) (ordinal : Ordinal) : Except ReportError String :=
  match r.enumerators[ordinal.value]? with
  | some enumerator => r.markerOf ordinal enumerator
  | none => .error (.unmappedOrdinal ordinal)

end Reading

/-- A warning that a block reports, with its marker type by name. -/
structure NamedSlotReport where
  slot : Nat
  row : Int
  col : Int
  marker : String
  deriving DecidableEq, Repr

/-- The hard error, with its marker type by name. -/
structure NamedErrorReport where
  row : Int
  col : Int
  marker : String
  deriving DecidableEq, Repr

/-- All that one expansion yields, with marker types by name. -/
structure NamedReport where
  warnings : List NamedSlotReport
  error : Option NamedErrorReport
  unaddressed : Nat
  deriving DecidableEq, Repr

namespace Reading

/-- The reports of a block: nothing without a warning at its index, else one for each trial whose
enumerator stands at the warning's ordinal. -/
def blockReports (r : Reading) (warnings : List Warning) (b : Header.Block) :
    Except ReportError (List NamedSlotReport) :=
  match warnings[b.slot]? with
  | none => .ok []
  | some w =>
    (b.trials.filter fun trial => r.enumerators[w.kind.value]? = some trial).mapM fun trial => do
      return ⟨b.slot, w.row, w.col, ← r.markerOf w.kind trial⟩

/-- The terminal check. -/
def hardError (r : Reading) (e : HardError) : Except ReportError (Option NamedErrorReport) :=
  if 0 ≤ e.row ∧ 0 ≤ e.col then do
    return some ⟨e.row, e.col, ← r.resolve e.kind⟩
  else .ok none

/-- The expansion of the macro for a parser's state. -/
def run (r : Reading) (warnings : List Warning) (e : HardError) :
    Except ReportError NamedReport := do
  let reports ← r.blocks.mapM (r.blockReports warnings)
  let error ← r.hardError e
  return ⟨reports.flatten, error, warnings.length - r.blocks.length⟩

end Reading

/-- The report of a slot with the marker type by name. -/
def SlotReport.named (sentinel : String) (report : SlotReport) : NamedSlotReport :=
  ⟨report.slot, report.row, report.col, report.marker.name sentinel⟩

/-- The hard error with the marker type by name. -/
def ErrorReport.named (sentinel : String) (report : ErrorReport) : NamedErrorReport :=
  ⟨report.row, report.col, report.marker.name sentinel⟩

/-- The report with marker types by name. -/
def Report.named (sentinel : String) (report : Report) : NamedReport :=
  ⟨report.warnings.map (SlotReport.named sentinel),
    report.error.map (ErrorReport.named sentinel), report.unaddressed⟩

namespace Reading

/-! ### What an accepted catalog reports -/

/-- The reading of the header of a catalog. -/
def ofCatalog (s : Schema) (c : Catalog) (budget : SlotBudget) : Reading where
  enumerators := (s.sentinel :: c.kinds).map s.enumerator
  mapping := (s.sentinel :: c.kinds).map fun name => (s.enumerator name, name)
  blocks := (List.range budget.slots).map fun slot => ⟨slot, c.kinds.map s.enumerator⟩

theorem ofSections_build (u : UsableSchema) (c : Catalog) (budget : SlotBudget) :
    ofSections (Header.build u.schema c budget).ordinals
        (Header.build u.schema c budget).specializations
        (Header.build u.schema c budget).dispatch
      = ofCatalog u.schema c budget := by
  have hmapping : (OrdinalRow.table u.schema c).map (fun row => (row.enumerator, row.marker))
      = (u.schema.sentinel :: c.kinds).map fun name => (u.schema.enumerator name, name) := by
    rw [← OrdinalRow.map_marker_table, List.map_map]
    refine List.map_congr_left fun row hrow => ?_
    rw [OrdinalRow.enumerator_of_mem_table u.schema c hrow]
    rfl
  rw [ofSections_eq (Header.isNamed_build u c budget) (OrdinalRow.table_ne_nil _ _),
    Header.rows_build, OrdinalRow.map_enumerator_table, hmapping]
  rfl

section

variable {u : UsableSchema} {c : Catalog} {budget : SlotBudget}

/-- An enumerator leads back to the name that it was made from. -/
theorem lookup_enumerator (s : Schema) {names : List String} {name : String}
    (h : name ∈ names) :
    (names.map fun n => (s.enumerator n, n)).lookup (s.enumerator name) = some name := by
  induction names with
  | nil => cases h
  | cons n names ih =>
    rw [List.map_cons, List.lookup_cons]
    -- an earlier name has another enumerator, for the prefix is the same
    by_cases heq : name = n
    · rw [heq, beq_self_eq_true]
    · have hne : (s.enumerator name == s.enumerator n) = false := by
        rw [beq_eq_false_iff_ne]
        exact fun henum => heq (Schema.enumerator_inj.1 henum)
      rw [hne]
      exact ih ((List.mem_cons.1 h).resolve_left heq)

theorem markerOf_ofCatalog {name : String} (h : name ∈ u.schema.sentinel :: c.kinds)
    (ordinal : Ordinal) :
    (ofCatalog u.schema c budget).markerOf ordinal (u.schema.enumerator name) = .ok name := by
  have hlookup : (ofCatalog u.schema c budget).mapping.lookup (u.schema.enumerator name)
      = some name :=
    lookup_enumerator u.schema h
  rw [markerOf, hlookup]

/-- The enumerator at a position is that of the marker type with the ordinal. -/
theorem getElem?_enumerators (o : Ordinal) :
    (ofCatalog u.schema c budget).enumerators[o.value]?
      = (c.marker? o).map fun marker => u.schema.enumerator (marker.name u.schema.sentinel) := by
  obtain ⟨_ | i⟩ := o
  · rfl
  · show ((u.schema.sentinel :: c.kinds).map u.schema.enumerator)[i + 1]? = _
    rw [List.getElem?_map, List.getElem?_cons_succ, Catalog.marker?, Option.map_map]
    rfl

theorem name_mem_of_marker? {o : Ordinal} {marker : Marker} (h : c.marker? o = some marker) :
    marker.name u.schema.sentinel ∈ u.schema.sentinel :: c.kinds := by
  obtain ⟨_ | i⟩ := o
  · cases h
    exact List.mem_cons_self
  · obtain ⟨name, hname, rfl⟩ := Option.map_eq_some_iff.1 h
    exact List.mem_cons_of_mem _ (List.mem_of_getElem? hname)

theorem hardError_ofCatalog (e : HardError) :
    (ofCatalog u.schema c budget).hardError e
      = (c.hardError e).map (Option.map (ErrorReport.named u.schema.sentinel)) := by
  have hraised : (0 ≤ e.row ∧ 0 ≤ e.col) ↔ e.isRaised = true := by
    rw [HardError.isRaised, Bool.and_eq_true, decide_eq_true_iff, decide_eq_true_iff]
  -- both sides raise under the same condition, and resolve the same ordinal
  rw [hardError, Catalog.hardError]
  by_cases h : e.isRaised = true
  · rw [if_pos (hraised.2 h), if_pos h, resolve, getElem?_enumerators]
    cases hm : c.marker? e.kind with
    | none => rfl
    | some marker =>
      rw [Option.map_some]
      dsimp only
      rw [markerOf_ofCatalog (name_mem_of_marker? hm)]
      rfl
  · rw [if_neg (fun hr => h (hraised.1 hr)), if_neg h]
    rfl

/-- Among the distinct trials of a block the one that fires is that of the kind with the
ordinal; there is none for the sentinel's. -/
theorem filter_trials (h : u.Accepts c) (o : Ordinal) :
    ((c.kinds.map u.schema.enumerator).filter fun trial =>
        (ofCatalog u.schema c budget).enumerators[o.value]? = some trial)
      = match o with
        | ⟨0⟩ => []
        | ⟨i + 1⟩ => (c.kinds[i]?.map u.schema.enumerator).toList := by
  rw [getElem?_enumerators]
  obtain ⟨_ | i⟩ := o
  · -- the sentinel's enumerator is tried nowhere, for no kind is called like the sentinel
    rw [List.filter_eq_nil_iff]
    intro trial htrial hfires
    obtain ⟨name, hname, rfl⟩ := List.mem_map.1 htrial
    rw [Catalog.marker?, Option.map_some, decide_eq_true_iff, Option.some_inj,
      Schema.enumerator_inj] at hfires
    rw [← hfires] at hname
    exact h.sentinel_not_mem hname
  · show _ = (c.kinds[i]?.map u.schema.enumerator).toList
    rw [Catalog.marker?]
    cases hi : c.kinds[i]? with
    | none =>
      refine List.filter_eq_nil_iff.2 ?_
      intro trial _ hfires
      cases decide_eq_true_iff.1 hfires
    | some name =>
      -- the kinds are distinct, so that only one trial fires
      have hone : c.kinds.count name = 1 :=
        List.count_eq_one_of_mem c.distinct (List.mem_of_getElem? hi)
      have hkinds : c.kinds.filter (· = name) = [name] := by
        rw [List.filter_eq, hone]
        rfl
      have hfires : (fun trial => decide (some (u.schema.enumerator name) = some trial))
          ∘ u.schema.enumerator = fun other => decide (other = name) := by
        funext other
        rw [Function.comp_apply, decide_eq_decide, Option.some_inj, Schema.enumerator_inj, eq_comm]
      rw [Option.map_some, Option.map_some, Marker.name, List.filter_map, hfires, hkinds]
      rfl

/-- A block reports what the slot of its index reports. -/
theorem blockReports_ofCatalog (h : u.Accepts c) (warnings : List Warning) (slot : Nat) :
    (ofCatalog u.schema c budget).blockReports warnings
        ⟨slot, c.kinds.map u.schema.enumerator⟩
      = .ok ((warnings[slot]?.bind (c.slotReport? slot)).toList.map
          (SlotReport.named u.schema.sentinel)) := by
  rw [blockReports]
  cases hw : warnings[slot]? with
  | none => rfl
  | some w =>
    rw [Option.bind_some, Catalog.slotReport?_eq]
    dsimp only
    rw [filter_trials h]
    -- the sentinel fires no trial, a kind its own, and an ordinal beyond the table none
    obtain ⟨⟨_ | i⟩, row, col⟩ := w
    · rfl
    · dsimp only
      cases hi : c.kinds[i]? with
      | none => rfl
      | some name =>
        have hname : name ∈ u.schema.sentinel :: c.kinds :=
          List.mem_cons_of_mem _ (List.mem_of_getElem? hi)
        rw [Option.map_some, Option.toList_some, List.mapM_cons, markerOf_ofCatalog hname]
        rfl

/-- All blocks together report what the slots report. -/
theorem mapM_blockReports (h : u.Accepts c) (budget : SlotBudget) (warnings : List Warning) :
    ∃ reports,
      (ofCatalog u.schema c budget).blocks.mapM
          ((ofCatalog u.schema c budget).blockReports warnings) = .ok reports ∧
        reports.flatten
          = (c.slotReports budget warnings).map (SlotReport.named u.schema.sentinel) := by
  let reportsOf : Header.Block → List NamedSlotReport := fun b =>
    (warnings[b.slot]?.bind (c.slotReport? b.slot)).toList.map
      (SlotReport.named u.schema.sentinel)
  refine ⟨(ofCatalog u.schema c budget).blocks.map reportsOf, mapM_eq_ok fun b hb => ?_, ?_⟩
  · obtain ⟨slot, -, rfl⟩ := List.mem_map.1 hb
    exact blockReports_ofCatalog h warnings slot
  · rw [Catalog.slotReports_eq, ofCatalog, List.map_map]
    induction List.range budget.slots with
    | nil => rfl
    | cons slot slots ih =>
      rw [List.map_cons, List.flatten_cons, ih, List.filterMap_cons]
      cases hreport : warnings[slot]?.bind (c.slotReport? slot) <;> simp [reportsOf, hreport]

theorem run_ofCatalog (h : u.Accepts c) (warnings : List Warning) (e : HardError) :
    (ofCatalog u.schema c budget).run warnings e
      = (c.report budget warnings e).map (Report.named u.schema.sentinel) := by
  obtain ⟨reports, hreports, hflatten⟩ := mapM_blockReports h budget warnings
  have hlength : (ofCatalog u.schema c budget).blocks.length = budget.slots := by
    rw [ofCatalog, List.length_map, List.length_range]
  rw [run, hreports, hardError_ofCatalog, Catalog.report, hlength]
  -- the blocks never fail, so a failure is that of the hard error
  cases c.hardError e with
  | error problem => rfl
  | ok error =>
    show Except.ok (NamedReport.mk reports.flatten _ _) = _
    rw [hflatten]
    rfl

end

/-- **The header reports what the evaluator reports.**  Read back from the text and expanded, the
sections of a header give the same warnings in the same order, the same hard error and the same
failure as the catalog that the header was made from. -/
theorem run_eq_report {u : UsableSchema} {c : Catalog} {budget : SlotBudget} {h : Header}
    (hh : u.header c budget = .ok h) (warnings : List Warning) (e : HardError) :
    (ofSections h.ordinals h.specializations h.dispatch).run warnings e
      = (c.report budget warnings e).map (Report.named u.schema.sentinel) := by
  obtain ⟨haccepts, rfl⟩ := UsableSchema.header_eq_ok_iff.1 hh
  rw [ofSections_build, run_ofCatalog haccepts]

/-- The built-in header passes over a warning of the sentinel's kind, and resolves the last kind. -/
theorem run_seephit :
    ∃ h, UsableSchema.standard.header .seephit .standard = .ok h ∧
      (ofSections h.ordinals h.specializations h.dispatch).run
          [⟨⟨2⟩, 7, 3⟩, ⟨⟨0⟩, 8, 1⟩] ⟨⟨18⟩, 9, 0⟩
        = .ok ⟨[⟨0, 7, 3, "Unexpected_character_inside_tag_content"⟩],
            some ⟨9, 0, "Infinite_loop_in_for_tag"⟩, 0⟩ := by
  exact ⟨_, UsableSchema.header_seephit,
    (run_eq_report UsableSchema.header_seephit _ _).trans (by decide +kernel)⟩

end Reading

end ErrorScaffold
