/-
The names in a header are words.

A header made under a usable schema, of whatever catalog, has words for names (`isNamed_build`).
Every line of it can then be read by its form (`Layout.isNamed_of_mem_lines`), and no line holds
a character that only the forms may bring in.
-/
import ErrorScaffold.Proofs.Header.Acceptance
import ErrorScaffold.Proofs.Header.Layout

namespace ErrorScaffold.Header

open Identifier Layout

/-- All names of the header are words. -/
structure IsNamed (h : Header) : Prop where
  field (field : Schema.Field) : field ≠ .ordinalPrefix → IsWord (h.schema.get field)
  enumerator {row : OrdinalRow} : row ∈ h.rows → IsWord row.enumerator
  marker {row : OrdinalRow} : row ∈ h.rows → IsWord row.marker
  trial {b : Block} {name : String} : b ∈ h.blocks → name ∈ b.trials → IsWord name

/-- Every field but the prefix, field by field. -/
theorem IsNamed.words {h : Header} (hn : h.IsNamed) :
    IsWord h.schema.namespaceName ∧ IsWord h.schema.includeGuard ∧ IsWord h.schema.enumName ∧
    IsWord h.schema.sentinel ∧ IsWord h.schema.mapping ∧ IsWord h.schema.reportMacro ∧
    IsWord h.schema.debugMacro ∧ IsWord h.schema.warningsField ∧ IsWord h.schema.kindField ∧
    IsWord h.schema.rowField ∧ IsWord h.schema.colField ∧ IsWord h.schema.errorRowField ∧
    IsWord h.schema.errorColField ∧ IsWord h.schema.errorKindField ∧
    IsWord h.schema.warningTemplate ∧ IsWord h.schema.errorTemplate ∧
    IsWord h.schema.ifTemplate :=
  ⟨hn.field .namespaceName nofun, hn.field .includeGuard nofun, hn.field .enumName nofun,
    hn.field .sentinel nofun, hn.field .mapping nofun, hn.field .reportMacro nofun,
    hn.field .debugMacro nofun, hn.field .warningsField nofun, hn.field .kindField nofun,
    hn.field .rowField nofun, hn.field .colField nofun, hn.field .errorRowField nofun,
    hn.field .errorColField nofun, hn.field .errorKindField nofun,
    hn.field .warningTemplate nofun, hn.field .errorTemplate nofun, hn.field .ifTemplate nofun⟩

/-- Whatever the catalog, a usable schema names everything by words. -/
theorem isNamed_build (u : UsableSchema) (c : Catalog) (budget : SlotBudget) :
    (build u.schema c budget).IsNamed := by
  -- the table starts with the sentinel, which is a field, and goes on with the kinds
  have hmarker : ∀ row ∈ OrdinalRow.table u.schema c, IsWord row.marker := by
    intro row hrow
    have hmem := List.mem_map_of_mem (f := (·.marker)) hrow
    rw [OrdinalRow.map_marker_table, List.mem_cons] at hmem
    rcases hmem with hmem | hmem
    · rw [hmem]
      exact u.isWord_get .sentinel nofun
    · exact isWord_of_defect?_eq_none (c.usable _ hmem)
  refine ⟨u.isWord_get, ?_, fun hrow => hmarker _ hrow, ?_⟩
  · intro row hrow
    rw [OrdinalRow.enumerator_of_mem_table u.schema c hrow]
    exact u.isWord_enumerator (hmarker row hrow)
  · intro b name hb hname
    obtain ⟨slot, -, rfl⟩ := List.mem_map.1 hb
    obtain ⟨kind, hkind, rfl⟩ := List.mem_map.1 hname
    exact u.isWord_enumerator_of_mem hkind

theorem isWord_plural {noun : String} (h : IsWord noun) (count : Nat) :
    IsWord (plural count noun) := by
  unfold plural
  split
  · exact h
  · exact IsWord.append h.2 ⟨by decide, List.all_eq_true.1 (by decide)⟩

namespace Layout

theorem isNamed_banner (h : Header) : (banner h).IsNamed := by
  have hkind : IsWord "kind" := ⟨by decide, List.all_eq_true.1 (by decide)⟩
  have hslot : IsWord "slot" := ⟨by decide, List.all_eq_true.1 (by decide)⟩
  simp [Line.IsNamed, banner, isWord_plural hkind, isWord_plural hslot]

variable {h : Header} (hn : h.IsNamed)
include hn

theorem isNamed_ordinals : ∀ line ∈ ordinals h, line.IsNamed := by
  intro line hline
  rw [ordinals, List.mem_append, List.mem_cons, List.mem_cons, List.mem_singleton] at hline
  rcases hline with (rfl | rfl | hline) | rfl
  · simp [Line.IsNamed, enumeration, hn.words]
  · simp [Line.IsNamed, openList]
  · obtain ⟨n, hmem, hn'⟩ := eq_of_mem_enumerators hline
    obtain ⟨row, hrow, rfl⟩ := List.mem_map.1 hmem
    rcases hn' with rfl | rfl <;>
      simp [Line.IsNamed, enumerator, lastEnumerator, hn.enumerator hrow]
  · simp [Line.IsNamed, closeList]

theorem isNamed_markers : ∀ line ∈ markers h, line.IsNamed := by
  intro line hline
  obtain ⟨row, hrow, rfl⟩ := List.mem_map.1 hline
  simp [Line.IsNamed, marker, hn.marker hrow]

theorem isNamed_specializations : ∀ line ∈ specializations h, line.IsNamed := by
  intro line hline
  rw [specializations, List.mem_cons, List.mem_cons] at hline
  rcases hline with rfl | rfl | hline
  · simp [Line.IsNamed, primary, hn.words]
  · simp [Line.IsNamed, blank]
  · obtain ⟨row, hrow, rfl⟩ := List.mem_map.1 hline
    simp [Line.IsNamed, specialization, hn.words, hn.enumerator hrow, hn.marker hrow]

theorem isNamed_block {b : Block} (hb : b ∈ h.blocks) :
    ∀ line ∈ block h.schema b, line.IsNamed := by
  intro line hline
  rw [block, List.mem_append, List.mem_append, List.mem_cons, List.mem_cons,
    List.mem_singleton] at hline
  -- only the binding and the trials have names in them
  rcases hline with ((rfl | rfl | hline) | hline) | rfl
  · simp [Line.IsNamed, blockGuard]
  · simp [Line.IsNamed, openBlock]
  · have hbinding : line = binding h.schema b.slot := by
      rw [bindings] at hline
      split at hline
      · cases hline
      · exact List.mem_singleton.1 hline
    simp [hbinding, Line.IsNamed, binding, hn.words]
  · obtain ⟨name, hname, rfl⟩ := List.mem_map.1 hline
    simp [Line.IsNamed, trial, hn.words, hn.trial hb hname]
  · simp [Line.IsNamed, closeBlock]

theorem isNamed_dispatch : ∀ line ∈ dispatch h, line.IsNamed := by
  intro line hline
  obtain ⟨b, hb, hline⟩ := List.mem_flatMap.1 hline
  exact isNamed_block hn hb line hline

theorem isNamed_opening : ∀ line ∈ opening h, line.IsNamed := by
  have hblank : blank.IsNamed := by simp [Line.IsNamed, blank]
  have hguard : (ifndef h.schema.includeGuard).IsNamed := by
    simp [Line.IsNamed, ifndef, hn.words]
  have hdefine : (define h.schema.includeGuard).IsNamed := by
    simp [Line.IsNamed, define, hn.words]
  have hdebug : (ifndef h.schema.debugMacro).IsNamed := by
    simp [Line.IsNamed, ifndef, hn.words]
  simp only [opening, List.forall_mem_append, List.forall_mem_cons, List.not_mem_nil,
    false_implies, implies_true, and_true]
  exact ⟨⟨⟨⟨⟨⟨⟨isNamed_banner h, hblank, hguard, hdefine, hblank⟩, isNamed_ordinals hn⟩, hblank⟩,
    isNamed_markers hn⟩, hblank⟩, isNamed_specializations hn⟩, hblank, hdebug, hblank⟩

theorem isNamed_macroLines : ∀ line ∈ macroLines h, line.IsNamed := by
  rw [macroLines, List.cons_append, List.cons_append, List.forall_mem_cons, List.forall_mem_cons,
    List.forall_mem_append]
  refine ⟨?_, ?_, isNamed_dispatch hn, ?_⟩
  · simp [Line.IsNamed, macroStart, hn.words]
  · simp [Line.IsNamed, count, hn.words]
  · simp [Line.IsNamed, terminalCheck, condition, error, hn.words]

theorem isNamed_closing : ∀ line ∈ closing h, line.IsNamed := by
  simp [Line.IsNamed, closing, blank, otherwise, emptyMacro, endif, hn.words]

/-- Every line of the header can be read by its form. -/
theorem isNamed_of_mem_lines : ∀ line ∈ lines h, line.IsNamed := by
  rw [lines, List.forall_mem_append, List.forall_mem_append]
  exact ⟨⟨isNamed_opening hn, isNamed_macroLines hn⟩, isNamed_closing hn⟩

end Layout

end ErrorScaffold.Header
