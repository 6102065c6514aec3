/-
Slots that are added.

Whether a catalog has a header does not depend on the slots.  With more of them the declarations
stay as they are and further blocks come behind the others.  Whether a state has a report does not
depend on them either: more warnings are told of, and the same is told of those that were within
reach before.

* `Header.Widens`, `UsableSchema.widens_build` — what is added to a header;
* `Report.Narrows`, `Report.Tells.narrow` — what is left of a report;
* `UsableSchema.widen_exact` — both together, with what fails in either case.
-/
import ErrorScaffold.Proofs.Header.Reading
import ErrorScaffold.Proofs.Report.Meaning
import ErrorScaffold.Proofs.Result

namespace ErrorScaffold

open Header

/-- The slots that the larger budget has beyond the other. -/
def SlotBudget.added (budget larger : SlotBudget) : List Nat :=
  List.range' budget.slots (larger.slots - budget.slots)

theorem SlotBudget.range_append_added {budget larger : SlotBudget}
    (h : budget.slots ≤ larger.slots) :
    List.range larger.slots = List.range budget.slots ++ budget.added larger := by
  calc List.range larger.slots
      = List.range' 0 (budget.slots + (larger.slots - budget.slots)) := by
        rw [Nat.add_sub_cancel' h, List.range_eq_range']
    _ = List.range' 0 budget.slots ++ List.range' (0 + budget.slots) _ :=
        List.range'_append_1.symm
    _ = List.range budget.slots ++ budget.added larger := by
        rw [Nat.zero_add, List.range_eq_range', added]

/-! ### Headers -/

/-- The one header has more blocks than the other and is like it in the declarations. -/
structure Header.Widens (wider h : Header) (added : List Block) : Prop where
  ordinals : wider.ordinals = h.ordinals
  markers : wider.markers = h.markers
  specializations : wider.specializations = h.specializations
  /-- The added blocks are written behind the others. -/
  dispatch : wider.dispatch = h.dispatch ++ String.join (added.map (blockText h.schema))
  /-- What is written there reads as these blocks. -/
  reads : (Reading.ofSections h.ordinals h.specializations
    (String.join (added.map (blockText h.schema)))).blocks = added

/-- Some of the blocks of a header read back by themselves. -/
theorem Header.IsNamed.reads_blocks {h : Header} (hn : h.IsNamed) {blocks : List Block}
    (hblocks : ∀ b ∈ blocks, b ∈ h.blocks) (ordinals specializations : String) :
    (Reading.ofSections ordinals specializations
      (String.join (blocks.map (blockText h.schema)))).blocks = blocks := by
  have hsome : Header.IsNamed { h with blocks } :=
    ⟨hn.field, hn.enumerator, hn.marker, fun hb => hn.trial (hblocks _ hb)⟩
  exact Reading.blocks_dispatch hsome

namespace UsableSchema

variable (u : UsableSchema) (c : Catalog) {budget larger : SlotBudget}

/-- The blocks that the larger budget adds: one for each further slot, with a trial per kind. -/
def addedBlocks (budget larger : SlotBudget) : List Block :=
  (budget.added larger).map fun slot => ⟨slot, c.kinds.map u.schema.enumerator⟩

theorem blocks_build (h : budget.slots ≤ larger.slots) :
    (build u.schema c larger).blocks
      = (build u.schema c budget).blocks ++ u.addedBlocks c budget larger := by
  rw [build, SlotBudget.range_append_added h, List.map_append]
  rfl

theorem widens_build (h : budget.slots ≤ larger.slots) :
    (build u.schema c larger).Widens (build u.schema c budget) (u.addedBlocks c budget larger) := by
  have hblocks := u.blocks_build c h
  exact {
    ordinals := rfl
    markers := rfl
    specializations := rfl
    dispatch := by
      rw [dispatch, hblocks, List.map_append, String.join_append]
      rfl
    reads := (isNamed_build u c larger).reads_blocks
      (fun b hb => hblocks ▸ List.mem_append_right _ hb) _ _ }

end UsableSchema

/-! ### Reports -/

/-- The report is what the other one says of the slots within the budget. -/
structure Report.Narrows (r r' : Report) (count : Nat) (budget larger : SlotBudget) : Prop where
  error : r.error = r'.error
  warnings : r.warnings = r'.warnings.filter fun s => s.slot < budget.slots
  /-- What is not told of any more is counted. -/
  unaddressed : (r.unaddressed : Int) - r'.unaddressed
    = (min larger.slots count : Nat) - (min budget.slots count : Nat)

section reports

variable {c : Catalog} {budget larger : SlotBudget} {warnings : List Warning} {e : HardError}
  {r r' : Report}

/-- A report that tells of more slots holds one that tells of fewer. -/
theorem Report.Tells.narrow (h : r.Tells c larger warnings e)
    (hle : budget.slots ≤ larger.slots) :
    Report.Tells {
      warnings := r.warnings.filter fun s => s.slot < budget.slots
      error := r.error
      unaddressed := warnings.length - min budget.slots warnings.length }
      c budget warnings e where
  ordered := h.ordered.filter _
  entries s := by
    have hslot : s.slot < budget.slots ∧ s.slot < min larger.slots warnings.length ↔
        s.slot < min budget.slots warnings.length := by omega
    rw [List.mem_filter, decide_eq_true_iff, h.entries, and_comm, ← and_assoc, hslot]
  raised := h.raised
  resolved := h.resolved
  sentinel := h.sentinel
  unaddressed := rfl

theorem Report.Tells.narrows (h : r.Tells c budget warnings e) (h' : r'.Tells c larger warnings e)
    (hle : budget.slots ≤ larger.slots) : r.Narrows r' warnings.length budget larger := by
  obtain rfl := h.unique (h'.narrow hle)
  have hcount := h'.unaddressed
  refine ⟨rfl, rfl, ?_⟩
  dsimp only
  omega

end reports

/-! ### The budget -/

namespace UsableSchema

variable (u : UsableSchema) (c : Catalog) (budget larger : SlotBudget)

/-- **A larger budget only adds slots.**  The same catalogs have a header, with the same error for
the others; the declarations are the same, and the blocks of the further slots come behind those of
the smaller budget.  The same states have a report, with the same error for the others; the hard
error is the same, and the smaller budget tells of the slots within it alone. -/
theorem widen_exact (hle : budget.slots ≤ larger.slots) :
    (((∃ h, u.header c budget = .ok h) ↔ ∃ wider, u.header c larger = .ok wider) ∧
      (∀ error, u.header c budget = .error error ↔ u.header c larger = .error error) ∧
      ∀ h wider, u.header c budget = .ok h → u.header c larger = .ok wider →
        wider.Widens h (u.addedBlocks c budget larger)) ∧
    ∀ warnings e,
      ((∃ r, c.report budget warnings e = .ok r) ↔ ∃ r, c.report larger warnings e = .ok r) ∧
      (∀ fault, c.report budget warnings e = .error fault ↔
        c.report larger warnings e = .error fault) ∧
      ∀ r r', c.report budget warnings e = .ok r → c.report larger warnings e = .ok r' →
        r.Narrows r' warnings.length budget larger := by
  have herror : ∀ error, u.header c budget = .error error ↔ u.header c larger = .error error :=
    fun _ => header_eq_error_iff.trans header_eq_error_iff.symm
  refine ⟨⟨exists_ok_congr herror, herror, ?_⟩, fun warnings e => ?_⟩
  · intro h wider hh hwider
    rw [(header_eq_ok_iff.1 hh).2, (header_eq_ok_iff.1 hwider).2]
    exact u.widens_build c hle
  · have hfault : ∀ fault, c.report budget warnings e = .error fault ↔
        c.report larger warnings e = .error fault :=
      fun _ => Catalog.report_eq_error_iff.trans Catalog.report_eq_error_iff.symm
    refine ⟨exists_ok_congr hfault, hfault, fun r r' hr hr' => ?_⟩
    exact (Catalog.tells_of_report hr).narrows (Catalog.tells_of_report hr') hle

/-- Of two warnings one slot tells of the first, and three slots of both. -/
theorem widen_seephit :
    let one : SlotBudget := ⟨1, by decide⟩
    let three : SlotBudget := ⟨3, by decide⟩
    let warnings : List Warning := [⟨⟨18⟩, 1, 2⟩, ⟨⟨7⟩, 3, 4⟩]
    let first : SlotReport := ⟨0, 1, 2, .kind "Infinite_loop_in_for_tag"⟩
    let second : SlotReport := ⟨1, 3, 4, .kind "Missing_open_bracket"⟩
    one.slots ≤ three.slots ∧
      (build standard.schema .seephit three).Widens (build standard.schema .seephit one)
        [⟨1, Catalog.seephit.kinds.map standard.schema.enumerator⟩,
          ⟨2, Catalog.seephit.kinds.map standard.schema.enumerator⟩] ∧
      Catalog.seephit.report one warnings {} = .ok ⟨[first], none, 1⟩ ∧
      Catalog.seephit.report three warnings {} = .ok ⟨[first, second], none, 0⟩ ∧
      Report.Narrows ⟨[first], none, 1⟩ ⟨[first, second], none, 0⟩ 2 one three := by
  intro one three warnings first second
  have hle : one.slots ≤ three.slots := by decide
  have haccepts := (header_eq_ok_iff.1 header_seephit).1
  have hone : Catalog.seephit.report one warnings {} = .ok ⟨[first], none, 1⟩ := by rfl
  have hthree : Catalog.seephit.report three warnings {} = .ok ⟨[first, second], none, 0⟩ := by rfl
  obtain ⟨⟨-, -, hheaders⟩, hreports⟩ := widen_exact standard .seephit one three hle
  exact ⟨hle, hheaders _ _ (header_of_accepts haccepts) (header_of_accepts haccepts), hone, hthree,
    (hreports warnings {}).2.2 _ _ hone hthree⟩

end UsableSchema

end ErrorScaffold
