/-
What a report says.

A report is determined by what it says about the recorded state.  A slot has an entry if and only
if it is within the budget and its warning is of a kind of the catalog; the entries come in the
order of the slots.  The hard error is there when it was raised, and it is the only thing that can
fail to be resolved.

* `mem_slotReports_iff`, `pairwise_slotReports` — which entries there are, and in which order;
* `Report.Tells.unique` — no two reports say the same;
* `hardError_eq_error_iff` — which hard error is not resolved;
* `report_exact` — the report is the one that says all this, unless the hard error is unmapped.
-/
import ErrorScaffold.Proofs.Catalog.Ordinals
import ErrorScaffold.Proofs.Report.Slots

namespace ErrorScaffold

@[simp] theorem HardError.isRaised_iff {e : HardError} :
    e.isRaised = true ↔ 0 ≤ e.row ∧ 0 ≤ e.col := by
  rw [isRaised, Bool.and_eq_true, decide_eq_true_iff, decide_eq_true_iff]

/-- The hard error was raised, and its ordinal is beyond the last kind. -/
def Catalog.Unmapped (c : Catalog) (e : HardError) : Prop :=
  0 ≤ e.row ∧ 0 ≤ e.col ∧ c.size < e.kind.value

/-- The report says what becomes of the warnings and of the hard error. -/
structure Report.Tells (r : Report) (c : Catalog) (budget : SlotBudget) (warnings : List Warning)
    (e : HardError) : Prop where
  ordered : r.warnings.Pairwise fun s s' => s.slot < s'.slot
  /-- A slot tells of its own warning, whose kind is in the catalog. -/
  entries (s : SlotReport) : s ∈ r.warnings ↔
    s.slot < min budget.slots warnings.length ∧ ∃ w, warnings[s.slot]? = some w ∧
      1 ≤ w.kind.value ∧ w.kind.value ≤ c.size ∧
      s.row = w.row ∧ s.col = w.col ∧ c.marker? w.kind = some s.marker
  raised : r.error.isSome ↔ 0 ≤ e.row ∧ 0 ≤ e.col
  resolved : ∀ d ∈ r.error, d.row = e.row ∧ d.col = e.col ∧ c.marker? e.kind = some d.marker
  /-- The ordinal of "no error" can be raised as well. -/
  sentinel : e.kind = .sentinel → ∀ d ∈ r.error, d.marker = .sentinel
  unaddressed : r.unaddressed = warnings.length - min budget.slots warnings.length

namespace Report.Tells

variable {c : Catalog} {budget : SlotBudget} {warnings : List Warning} {e : HardError}
  {r r' : Report}

theorem nodup (h : r.Tells c budget warnings e) : r.warnings.Nodup :=
  h.ordered.imp fun hlt heq => Nat.ne_of_lt hlt (congrArg SlotReport.slot heq)

/-- The slots increase, so that a list of reports is known by its members. -/
theorem warnings_eq (h : r.Tells c budget warnings e) (h' : r'.Tells c budget warnings e) :
    r.warnings = r'.warnings := by
  have hperm : r.warnings.Perm r'.warnings :=
    (List.perm_ext_iff_of_nodup h.nodup h'.nodup).2 fun s =>
      (h.entries s).trans (h'.entries s).symm
  refine hperm.eq_of_pairwise (fun _ _ _ _ hlt hgt => ?_) h.ordered h'.ordered
  exact absurd hgt (Nat.lt_asymm hlt)

theorem error_eq (h : r.Tells c budget warnings e) (h' : r'.Tells c budget warnings e) :
    r.error = r'.error := by
  refine Option.ext fun d => ?_
  -- two reports of the error have the same place and the same marker type
  have same : ∀ d ∈ r.error, ∀ d' ∈ r'.error, d = d' := by
    rintro ⟨row, col, marker⟩ hd ⟨row', col', marker'⟩ hd'
    obtain ⟨hrow, hcol, hmarker⟩ := h.resolved _ hd
    obtain ⟨hrow', hcol', hmarker'⟩ := h'.resolved _ hd'
    cases hrow.trans hrow'.symm
    cases hcol.trans hcol'.symm
    cases hmarker.symm.trans hmarker'
    rfl
  -- and there is one in both or in neither
  constructor
  · intro hd
    obtain ⟨d', hd'⟩ := Option.isSome_iff_exists.1
      (h'.raised.2 (h.raised.1 (Option.isSome_of_mem hd)))
    rw [same d hd d' hd', hd']
  · intro hd'
    obtain ⟨d, hd⟩ := Option.isSome_iff_exists.1
      (h.raised.2 (h'.raised.1 (Option.isSome_of_mem hd')))
    rw [← same d hd _ hd', hd]

/-- No two reports say the same of a state. -/
theorem unique (h : r.Tells c budget warnings e) (h' : r'.Tells c budget warnings e) : r = r' := by
  cases r
  cases r'
  cases h.warnings_eq h'
  cases h.error_eq h'
  cases h.unaddressed.trans h'.unaddressed.symm
  rfl

end Report.Tells

namespace Catalog

variable (c : Catalog) (budget : SlotBudget) (warnings : List Warning) (e : HardError)

/-! ### The slots -/

theorem slotReport?_eq_some_iff {c : Catalog} {slot : Nat} {w : Warning} {s : SlotReport} :
    c.slotReport? slot w = some s ↔
      s.slot = slot ∧ 1 ≤ w.kind.value ∧ w.kind.value ≤ c.size ∧
        s.row = w.row ∧ s.col = w.col ∧ c.marker? w.kind = some s.marker := by
  obtain ⟨slot', row, col, marker⟩ := s
  obtain ⟨⟨_ | position⟩, row', col'⟩ := w
  · -- no trial is about the sentinel
    rw [slotReport?_eq]
    exact ⟨nofun, fun h => absurd h.2.1 (Nat.not_succ_le_zero 0)⟩
  · rw [slotReport?_eq, Option.map_eq_some_iff]
    -- a kind fires its own trial if the catalog has it
    constructor
    · rintro ⟨name, hname, heq⟩
      cases heq
      have hmarker := marker?_eq_kind_iff.2 ⟨position, rfl, hname⟩
      obtain ⟨hpos, hle⟩ := value_of_marker?_eq_kind hmarker
      exact ⟨rfl, hpos, hle, rfl, rfl, hmarker⟩
    · rintro ⟨hslot, -, -, hrow, hcol, hmarker⟩
      obtain ⟨name, hname, hkind⟩ := Option.map_eq_some_iff.1 hmarker
      dsimp only at hslot hrow hcol hkind
      subst hslot hrow hcol hkind
      exact ⟨name, hname, rfl⟩

@[simp] theorem mem_slotReports_iff {s : SlotReport} :
    s ∈ c.slotReports budget warnings ↔
      s.slot < min budget.slots warnings.length ∧ ∃ w, warnings[s.slot]? = some w ∧
        1 ≤ w.kind.value ∧ w.kind.value ≤ c.size ∧
        s.row = w.row ∧ s.col = w.col ∧ c.marker? w.kind = some s.marker := by
  rw [slotReports_eq, List.mem_filterMap]
  constructor
  · rintro ⟨slot, hslot, hentry⟩
    obtain ⟨w, hw, hreport⟩ := Option.bind_eq_some_iff.1 hentry
    obtain ⟨rfl, hsays⟩ := slotReport?_eq_some_iff.1 hreport
    have hlt := (List.getElem?_eq_some_iff.1 hw).1
    exact ⟨Nat.lt_min.2 ⟨List.mem_range.1 hslot, hlt⟩, w, hw, hsays⟩
  · rintro ⟨hslot, w, hw, hreport⟩
    refine ⟨s.slot, List.mem_range.2 (Nat.lt_min.1 hslot).1, ?_⟩
    exact Option.bind_eq_some_iff.2 ⟨w, hw, slotReport?_eq_some_iff.2 ⟨rfl, hreport⟩⟩

/-- A slot that reports nothing leaves the order of the others alone. -/
theorem pairwise_slotReports :
    (c.slotReports budget warnings).Pairwise fun s s' => s.slot < s'.slot := by
  rw [slotReports_eq, List.pairwise_filterMap]
  refine List.pairwise_lt_range.imp fun {slot slot'} hlt s hs s' hs' => ?_
  obtain ⟨w, -, hreport⟩ := Option.bind_eq_some_iff.1 hs
  obtain ⟨w', -, hreport'⟩ := Option.bind_eq_some_iff.1 hs'
  rw [(slotReport?_eq_some_iff.1 hreport).1, (slotReport?_eq_some_iff.1 hreport').1]
  exact hlt

/-! ### The hard error -/

variable {c budget warnings e}

@[simp] theorem hardError_eq_error_iff {fault : ReportError} :
    c.hardError e = .error fault ↔ c.Unmapped e ∧ fault = .unmappedOrdinal e.kind := by
  have hbeyond : c.marker? e.kind = none ↔ c.size < e.kind.value := marker?_eq_none_iff
  rw [hardError, Unmapped, ← and_assoc, ← HardError.isRaised_iff, ← hbeyond]
  cases e.isRaised with
  | false => simp
  | true =>
    cases c.marker? e.kind with
    | none => simp [eq_comm]
    | some marker => simp

theorem tells_of_hardError {error : Option ErrorReport} (h : c.hardError e = .ok error) :
    (error.isSome ↔ 0 ≤ e.row ∧ 0 ≤ e.col) ∧
      ∀ d ∈ error, d.row = e.row ∧ d.col = e.col ∧ c.marker? e.kind = some d.marker := by
  rw [← HardError.isRaised_iff]
  unfold hardError at h
  split at h
  · next hraised =>
    -- the error was raised; an ordinal without a marker type has failed already
    cases hmarker : c.marker? e.kind with
    | none =>
      rw [hmarker] at h
      cases h
    | some marker =>
      rw [hmarker] at h
      cases h
      refine ⟨by simp [hraised], fun d hd => ?_⟩
      cases hd
      exact ⟨rfl, rfl, rfl⟩
  · next hraised =>
    cases h
    exact ⟨by simp [hraised], nofun⟩

/-! ### The report -/

@[simp] theorem report_eq_error_iff {fault : ReportError} :
    c.report budget warnings e = .error fault ↔
      c.Unmapped e ∧ fault = .unmappedOrdinal e.kind := by
  rw [← hardError_eq_error_iff, report]
  cases c.hardError e with
  | error fault' => exact ⟨fun h => by cases h; rfl, fun h => by cases h; rfl⟩
  | ok error => exact ⟨nofun, nofun⟩

theorem tells_of_report {r : Report} (h : c.report budget warnings e = .ok r) :
    r.Tells c budget warnings e := by
  cases herror : c.hardError e with
  | error fault =>
    rw [report, herror] at h
    cases h
  | ok error =>
    rw [report, herror] at h
    cases h
    obtain ⟨hraised, hresolved⟩ := tells_of_hardError herror
    exact {
      ordered := c.pairwise_slotReports budget warnings
      entries := fun s => c.mem_slotReports_iff budget warnings
      raised := hraised
      resolved := hresolved
      sentinel := by
        intro hkind d hd
        have hmarker := (hresolved d hd).2.2
        rw [hkind] at hmarker
        exact (Option.some.inj hmarker).symm
      unaddressed := by
        -- warnings beyond the budget are counted, and there are none below it
        show warnings.length - budget.slots = _
        omega }

variable (c budget warnings e)

/-- **What a report says.**  It fails if and only if the hard error was raised and is beyond the
last kind, and then it names the ordinal; the warnings play no part in it.  Otherwise there is
exactly one report that tells of the slots, of the hard error and of the warnings beyond the
budget, and this is the one. -/
theorem report_exact :
    (∀ fault, c.report budget warnings e = .error fault ↔
      c.Unmapped e ∧ fault = .unmappedOrdinal e.kind) ∧
    ((∃ r, c.report budget warnings e = .ok r) ↔ ¬c.Unmapped e) ∧
    ∀ r, c.report budget warnings e = .ok r →
      r.Tells c budget warnings e ∧ ∀ r', r'.Tells c budget warnings e → r' = r := by
  refine ⟨fun fault => report_eq_error_iff, ⟨?_, ?_⟩, ?_⟩
  · rintro ⟨r, hr⟩ hunmapped
    cases hr.symm.trans (report_eq_error_iff.2 ⟨hunmapped, rfl⟩)
  · intro hmapped
    cases hresult : c.report budget warnings e with
    | error fault => exact absurd (report_eq_error_iff.1 hresult).1 hmapped
    | ok r => exact ⟨r, rfl⟩
  · intro r hr
    exact ⟨tells_of_report hr, fun r' hr' => hr'.unique (tells_of_report hr)⟩

/-- The second warning is of no kind and the third of none in the catalog; the budget ends before
the fifth.  The hard error has the ordinal of "no error". -/
theorem report_of_mixed_warnings :
    let warnings : List Warning :=
      [⟨⟨18⟩, 1, 2⟩, ⟨⟨0⟩, 3, 4⟩, ⟨⟨19⟩, 5, 6⟩, ⟨⟨7⟩, -1, 0⟩, ⟨⟨1⟩, 7, 8⟩]
    let budget : SlotBudget := ⟨4, by decide⟩
    let r : Report := {
      warnings := [⟨0, 1, 2, .kind "Infinite_loop_in_for_tag"⟩,
        ⟨3, -1, 0, .kind "Missing_open_bracket"⟩]
      error := some ⟨9, 0, .sentinel⟩
      unaddressed := 1 }
    seephit.report budget warnings ⟨⟨0⟩, 9, 0⟩ = .ok r ∧
      r.Tells seephit budget warnings ⟨⟨0⟩, 9, 0⟩ ∧
      seephit.report budget warnings ⟨⟨19⟩, 9, 0⟩ = .error (.unmappedOrdinal ⟨19⟩) := by
  intro warnings budget r
  have hresult : seephit.report budget warnings ⟨⟨0⟩, 9, 0⟩ = .ok r := by rfl
  refine ⟨hresult, ((report_exact seephit budget warnings ⟨⟨0⟩, 9, 0⟩).2.2 r hresult).1, ?_⟩
  exact ((report_exact seephit budget warnings ⟨⟨19⟩, 9, 0⟩).1 _).2
    ⟨⟨by decide, by decide, by decide⟩, rfl⟩

end Catalog

end ErrorScaffold
