/-
Searching a text for another, and replacing what is found.

What a text starts with is taken off by `List.isPrefixOf?`; `splitAtFirst?` looks for the first
place at which that can be done.

* `length_of_isPrefixOf?`, `length_lt_of_splitAtFirst?` — what is left of a text is shorter than
  the text, so a loop that goes on there ends.
-/

namespace ErrorScaffold.Text

/-- What a text starts with and what is left of it are as long as the text. -/
theorem length_of_isPrefixOf? {needle text after : List Char}
    (h : needle.isPrefixOf? text = some after) :
    needle.length + after.length = text.length := by
  induction needle generalizing text with
  | nil =>
    cases h
    exact Nat.zero_add _
  | cons n needle ih =>
    cases text with
    | nil => cases h
    | cons c text =>
      have hstep : (if n == c then needle.isPrefixOf? text else none) = some after := h
      split at hstep
      · rw [List.length_cons, List.length_cons, Nat.add_right_comm, ih hstep]
      · cases hstep

/-- The text before the first occurrence of `needle` and the text after it. -/
def splitAtFirst? (needle : List Char) : List Char → Option (List Char × List Char)
  | [] => if needle.isEmpty then some ([], []) else none
  | c :: rest =>
    match needle.isPrefixOf? (c :: rest) with
    | some after => some ([], after)
    | none => (splitAtFirst? needle rest).map fun (before, after) => (c :: before, after)

theorem length_lt_of_splitAtFirst? {needle text before after : List Char} (hn : needle ≠ [])
    (h : splitAtFirst? needle text = some (before, after)) : after.length < text.length := by
  induction text generalizing before with
  | nil => simp [splitAtFirst?, hn] at h
  | cons c rest ih =>
    simp only [splitAtFirst?] at h
    split at h
    · next hprefix =>
      cases h
      have hlength := length_of_isPrefixOf? hprefix
      have hpos := List.length_pos_iff.2 hn
      omega
    · obtain ⟨⟨before', after'⟩, hrest, heq⟩ := Option.map_eq_some_iff.1 h
      cases heq
      exact Nat.lt_succ_of_lt (ih hrest)

/-- Replaces every occurrence of `needle`, from left to right and without looking again at what
was put in.  An empty `needle` occurs nowhere. -/
def replaceAll (needle replacement text : List Char) : List Char :=
  if hn : needle = [] then text
  else
    match h : splitAtFirst? needle text with
    | none => text
    | some (before, after) =>
      have : after.length < text.length := length_lt_of_splitAtFirst? hn h
      before ++ replacement ++ replaceAll needle replacement after
termination_by text.length

end ErrorScaffold.Text
