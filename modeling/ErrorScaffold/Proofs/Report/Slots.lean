/-
The report, slot by slot.

The trials of a slot go through the numbered kinds; what they find is what the marker type of the
recorded ordinal says (`slotReport?_eq`), and nothing for the sentinel.  The loop over the slots
ends with the recorded warnings, so the reports are those of the slots within the budget that
have a warning (`slotReports_eq`).
-/
import ErrorScaffold.Report

namespace ErrorScaffold.Catalog

variable (c : Catalog)

/-- Numbered from `start` on, the kind at `i` is found under `start + i`. -/
theorem find?_numbered (kinds : List String) (start i : Nat) :
    (((kinds.zipIdx start).map fun (name, position) => (Ordinal.mk position, name)).find?
        fun (ordinal, _) => ordinal == ⟨start + i⟩)
      = kinds[i]?.map fun name => (⟨start + i⟩, name) := by
  induction kinds generalizing start i with
  | nil => rfl
  | cons name kinds ih =>
    rw [List.zipIdx_cons, List.map_cons]
    cases i with
    | zero => simp
    | succ i =>
      rw [List.getElem?_cons_succ, List.find?_cons_of_neg (by simp),
        show start + (i + 1) = start + 1 + i by omega]
      exact ih (start + 1) i

@[simp] theorem find?_numberedKinds_succ (i : Nat) :
    (c.numberedKinds.find? fun (ordinal, _) => ordinal == ⟨i + 1⟩)
      = c.kinds[i]?.map fun name => (⟨i + 1⟩, name) := by
  rw [Nat.add_comm i 1]
  exact find?_numbered c.kinds 1 i

@[simp] theorem find?_numberedKinds_zero :
    (c.numberedKinds.find? fun (ordinal, _) => ordinal == ⟨0⟩) = none := by
  rw [List.find?_eq_none, numberedKinds]
  intro entry hentry hzero
  obtain ⟨numbered, hnumbered, rfl⟩ := List.mem_map.1 hentry
  -- the kinds are numbered from one on
  have hpos := List.le_snd_of_mem_zipIdx hnumbered
  rw [beq_iff_eq, Ordinal.mk.injEq] at hzero
  omega

/-- A slot reports the warning's kind, if its ordinal is a kind's. -/
theorem slotReport?_eq (slot : Nat) (w : Warning) :
    c.slotReport? slot w =
      match w.kind with
      | ⟨0⟩ => none
      | ⟨i + 1⟩ => c.kinds[i]?.map fun name => ⟨slot, w.row, w.col, .kind name⟩ := by
  obtain ⟨⟨_ | i⟩, row, col⟩ := w
  · rw [slotReport?, find?_numberedKinds_zero]
    rfl
  · rw [slotReport?, find?_numberedKinds_succ, Option.map_map]
    rfl

/-- The first warnings with their positions, counted by position. -/
theorem zipIdx_take_eq (warnings : List Warning) (n : Nat) :
    (warnings.take n).zipIdx
      = (List.range n).filterMap fun i => warnings[i]?.map fun w => (w, i) := by
  induction n with
  | zero => rfl
  | succ n ih =>
    rw [List.take_add_one, List.zipIdx_append, ih, List.range_succ, List.filterMap_append]
    congr 1
    cases hn : warnings[n]? with
    | none => simp [hn]
    | some w =>
      -- there are more than `n` warnings, so the next one gets position `n`
      have hlt := (List.getElem?_eq_some_iff.1 hn).1
      simp [hn, Nat.min_eq_left (Nat.le_of_lt hlt)]

/-- The reports are those of the slots within the budget, in slot order. -/
theorem slotReports_eq (budget : SlotBudget) (warnings : List Warning) :
    c.slotReports budget warnings
      = (List.range budget.slots).filterMap fun i => warnings[i]?.bind (c.slotReport? i) := by
  rw [slotReports, zipIdx_take_eq, List.filterMap_filterMap]
  congr 1
  funext i
  cases warnings[i]? <;> rfl

end ErrorScaffold.Catalog
