/-
Positions in a text.

A search from a cursor on stops at the first position that it looks for (`IsFirst`).

* `IsFirst.unique`, `exists_isFirst` — there is at most one, and there is one if there is any;
* `splitAtFirst?_drop_iff` — splitting a text cuts it at the first position at which the needle
  stands.
-/
import ErrorScaffold.Proofs.Text.Search

namespace ErrorScaffold.Text

/-! ### First positions -/

/-- The first position from the cursor on at which `P` holds. -/
structure IsFirst (P : Nat → Prop) (cursor position : Nat) : Prop where
  le : cursor ≤ position
  holds : P position
  first : ∀ i, cursor ≤ i → i < position → ¬P i

section

variable {P : Nat → Prop} {cursor position position' : Nat}

theorem IsFirst.unique (h : IsFirst P cursor position) (h' : IsFirst P cursor position') :
    position = position' := by
  rcases Nat.lt_trichotomy position position' with hlt | heq | hgt
  · exact absurd h.holds (h'.first position h.le hlt)
  · exact heq
  · exact absurd h'.holds (h.first position' h'.le hgt)

theorem isFirst_of_holds (h : P cursor) : IsFirst P cursor position ↔ position = cursor := by
  have hself : IsFirst P cursor cursor := ⟨Nat.le_refl _, h, fun i hle hlt => by omega⟩
  constructor
  · exact fun hposition => hposition.unique hself
  · rintro rfl
    exact hself

theorem isFirst_of_not_holds (h : ¬P cursor) :
    IsFirst P cursor position ↔ IsFirst P (cursor + 1) position := by
  constructor
  · rintro ⟨hle, hholds, hfirst⟩
    have hne : cursor ≠ position := fun heq => h (heq ▸ hholds)
    exact ⟨by omega, hholds, fun i hi => hfirst i (by omega)⟩
  · rintro ⟨hle, hholds, hfirst⟩
    refine ⟨by omega, hholds, fun i hi hlt => ?_⟩
    by_cases heq : i = cursor
    · rwa [heq]
    · exact hfirst i (by omega) hlt

/-- A position at which `P` holds is the first one or behind it. -/
theorem exists_isFirst (hle : cursor ≤ position) (h : P position) :
    ∃ first ≤ position, IsFirst P cursor first := by
  induction hgap : position - cursor generalizing cursor with
  | zero =>
    have heq : cursor = position := by omega
    subst heq
    exact ⟨cursor, Nat.le_refl _, (isFirst_of_holds h).2 rfl⟩
  | succ gap ih =>
    by_cases hcursor : P cursor
    · exact ⟨cursor, hle, (isFirst_of_holds hcursor).2 rfl⟩
    · have hgap' : position - (cursor + 1) = gap := by omega
      obtain ⟨first, hfirst, hisFirst⟩ := ih (by omega) hgap'
      exact ⟨first, hfirst, (isFirst_of_not_holds hcursor).2 hisFirst⟩

end

/-! ### Where a needle stands -/

/-- The needle stands in the text at a position. -/
def StandsAt (needle text : List Char) (i : Nat) : Prop :=
  needle <+: text.drop i

variable {needle text before after : List Char} {cursor i : Nat}

theorem isPrefixOf?_drop_iff :
    needle.isPrefixOf? (text.drop i) = some after ↔
      StandsAt needle text i ∧ after = text.drop (i + needle.length) := by
  rw [List.isPrefixOf?_eq_some_iff_append_eq, ← List.drop_drop, StandsAt]
  constructor
  · intro h
    rw [← h]
    exact ⟨List.prefix_append needle after, (List.drop_left).symm⟩
  · rintro ⟨⟨rest, hrest⟩, rfl⟩
    rw [← hrest, List.drop_left]

theorem isPrefixOf?_drop_eq_none_iff :
    needle.isPrefixOf? (text.drop i) = none ↔ ¬StandsAt needle text i := by
  rw [Option.eq_none_iff_forall_ne_some]
  constructor
  · exact fun h hstands => h _ (isPrefixOf?_drop_iff.2 ⟨hstands, rfl⟩)
  · exact fun h after hafter => h (isPrefixOf?_drop_iff.1 hafter).1

/-- A needle stands before the end of the text. -/
theorem StandsAt.add_length_le (h : StandsAt needle text i) (hn : needle ≠ []) :
    i + needle.length ≤ text.length := by
  have hpos := List.length_pos_iff.2 hn
  have hle := h.length_le
  rw [List.length_drop] at hle
  omega

theorem not_standsAt_of_drop_eq_nil (hn : needle ≠ []) (hend : text.drop cursor = [])
    (hle : cursor ≤ i) : ¬StandsAt needle text i := by
  intro hstands
  have hpos := List.length_pos_iff.2 hn
  have hi := hstands.add_length_le hn
  have hcursor := List.drop_eq_nil_iff.1 hend
  omega

theorem drop_succ_of_drop_eq_cons {c : Char} {rest : List Char} (h : text.drop i = c :: rest) :
    text.drop (i + 1) = rest := by
  rw [← List.drop_drop, h, List.drop_succ_cons, List.drop_zero]

/-- A needle that stands in a part of the text stands in the text. -/
theorem exists_standsAt_of_infix {start stop : Nat} (hn : needle ≠ [])
    (h : needle <:+: text.extract start stop) :
    ∃ position, start ≤ position ∧ position + needle.length ≤ stop ∧
      StandsAt needle text position := by
  obtain ⟨front, back, hpart⟩ := h
  have hpos := List.length_pos_iff.2 hn
  have hlength := congrArg List.length hpart
  simp only [List.length_append, List.extract, List.length_take, List.length_drop] at hlength
  refine ⟨start + front.length, Nat.le_add_right _ _, by omega, ?_⟩
  rw [StandsAt, ← List.drop_drop, ← List.take_append_drop (stop - start) (text.drop start)]
  rw [List.extract] at hpart
  rw [← hpart, List.append_assoc, List.append_assoc, List.drop_left]
  exact List.prefix_append needle _

/-- A text is cut at the first position at which the needle stands. -/
theorem splitAtFirst?_drop_iff :
    splitAtFirst? needle (text.drop cursor) = some (before, after) ↔
      ∃ position, IsFirst (StandsAt needle text) cursor position ∧
        before = text.extract cursor position ∧ after = text.drop (position + needle.length) := by
  rw [splitAtFirst?_eq_some_iff]
  constructor
  · rintro ⟨htext, hfirst⟩
    have hdrop : text.drop (cursor + before.length) = needle ++ after := by
      rw [← List.drop_drop, htext, List.append_assoc, List.drop_left]
    refine ⟨cursor + before.length, ⟨Nat.le_add_right _ _, ⟨after, hdrop.symm⟩, ?_⟩, ?_, ?_⟩
    · rintro i hle hlt ⟨back, hback⟩
      -- the part in front of an earlier needle would be shorter
      have hfront : text.drop cursor = (text.drop cursor).take (i - cursor) ++ needle ++ back := by
        rw [List.append_assoc, hback, show i = cursor + (i - cursor) by omega, ← List.drop_drop,
          Nat.add_sub_cancel_left, List.take_append_drop]
      have hlength := hfirst _ _ hfront
      rw [List.length_take] at hlength
      omega
    · rw [List.extract, htext, Nat.add_sub_cancel_left, List.append_assoc, List.take_left]
    · rw [← List.drop_drop, hdrop, List.drop_left]
  · rintro ⟨position, ⟨hle, ⟨rest, hrest⟩, hfirst⟩, rfl, rfl⟩
    have hposition : position = cursor + (position - cursor) := by omega
    constructor
    · rw [← List.drop_drop, ← hrest, List.drop_left, List.append_assoc, hrest, hposition,
        ← List.drop_drop, List.extract, Nat.add_sub_cancel_left, List.take_append_drop]
    · intro front back hfront
      by_contra hshort
      -- the needle behind a shorter part stands before the first position
      have hlength := List.length_take_le (position - cursor) (text.drop cursor)
      rw [List.extract] at hshort
      refine hfirst (cursor + front.length) (Nat.le_add_right _ _) (by omega) ⟨back, ?_⟩
      rw [← List.drop_drop, hfront, List.append_assoc, List.drop_left]

end ErrorScaffold.Text
