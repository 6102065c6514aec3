/-
Searching a text piece by piece.

`splitAtFirst?` is the library's `List.dropInfix?`, so that it finds the first occurrence of the
needle.  Where a text is put together from pieces, a search can be followed piece by piece: it goes
over a piece in which no occurrence of the needle starts (`Avoids`), whatever comes after the piece.

* `splitAtFirst?_eq_dropInfix?`, `splitAtFirst?_eq_some_iff` — what is found;
* `takeWhile_run`, `dropWhile_run` — a run of characters is taken and dropped as a whole;
* `splitAtFirst?_append`, `splitAtFirst?_needle` — the search goes over such a piece, and stops at
  the needle after it;
* `replaceAll_append`, `replaceAll_needle` — replacing leaves such a piece, and takes the needle.
-/
import ErrorScaffold.Text.Split
import Mathlib.Data.List.Basic

namespace ErrorScaffold.Text

/-! ### What a text starts with -/

@[simp] theorem isPrefixOf?_append (needle rest : List Char) :
    needle.isPrefixOf? (needle ++ rest) = some rest :=
  List.isPrefixOf?_eq_some_iff_append_eq.2 rfl

@[simp] theorem isPrefixOf?_cons_self (c : Char) (needle text : List Char) :
    (c :: needle).isPrefixOf? (c :: text) = needle.isPrefixOf? text := by
  rw [List.isPrefixOf?, if_pos (beq_self_eq_true c)]

theorem isPrefixOf?_cons_of_ne {n c : Char} (h : n ≠ c) (needle text : List Char) :
    (n :: needle).isPrefixOf? (c :: text) = none := by
  rw [List.isPrefixOf?, if_neg (mt beq_iff_eq.1 h)]

/-! ### The first occurrence -/

theorem dropPrefix?_eq_isPrefixOf? (text needle : List Char) :
    text.dropPrefix? needle = needle.isPrefixOf? text := by
  refine Option.ext fun after => ?_
  rw [List.isPrefixOf?_eq_some_iff_append_eq, List.dropPrefix?_eq_some_iff]
  simp only [beq_iff_eq, exists_eq_right]
  exact eq_comm

/-- The library's search keeps what it went over in an accumulator. -/
theorem dropInfix?_go_eq (needle text passed : List Char) :
    List.dropInfix?.go needle text passed
      = (splitAtFirst? needle text).map
          fun (before, after) => (passed.reverse ++ before, after) := by
  induction text generalizing passed with
  | nil =>
    rw [List.dropInfix?.go.eq_def, splitAtFirst?]
    cases needle <;> simp
  | cons c rest ih =>
    rw [List.dropInfix?.go.eq_def, splitAtFirst?]
    dsimp only
    rw [dropPrefix?_eq_isPrefixOf?]
    cases needle.isPrefixOf? (c :: rest) with
    | some after => simp
    | none => simp [ih, Function.comp_def]

theorem splitAtFirst?_eq_dropInfix? (needle text : List Char) :
    splitAtFirst? needle text = text.dropInfix? needle := by
  rw [List.dropInfix?, dropInfix?_go_eq]
  simp

/-- A text is split at an occurrence that no other comes before. -/
theorem splitAtFirst?_eq_some_iff {needle text before after : List Char} :
    splitAtFirst? needle text = some (before, after) ↔
      text = before ++ needle ++ after ∧
        ∀ front back, text = front ++ needle ++ back → before.length ≤ front.length := by
  rw [splitAtFirst?_eq_dropInfix?, List.dropInfix?_eq_some_iff]
  simp only [beq_iff_eq, ge_iff_le]
  constructor
  · rintro ⟨⟨_, htext, rfl⟩, hfirst⟩
    exact ⟨htext, fun front back h => hfirst front _ back h rfl⟩
  · rintro ⟨htext, hfirst⟩
    exact ⟨⟨needle, htext, rfl⟩, fun front _ back h heq => hfirst front back (heq ▸ h)⟩

/-! ### Runs -/

/-- A run ends where the text goes on otherwise. -/
theorem takeWhile_run {p : Char → Bool} {run rest : List Char} (hrun : ∀ c ∈ run, p c = true)
    (hrest : ∀ c ∈ rest.head?, p c = false) : (run ++ rest).takeWhile p = run := by
  rw [List.takeWhile_append_of_pos hrun]
  cases rest with
  | nil => rw [List.takeWhile_nil, List.append_nil]
  | cons c rest => rw [List.takeWhile_cons_of_neg (by simp [hrest c rfl]), List.append_nil]

theorem dropWhile_run {p : Char → Bool} {run rest : List Char} (hrun : ∀ c ∈ run, p c = true)
    (hrest : ∀ c ∈ rest.head?, p c = false) : (run ++ rest).dropWhile p = rest := by
  rw [List.dropWhile_append_of_pos hrun]
  cases rest with
  | nil => rfl
  | cons c rest => rw [List.dropWhile_cons_of_neg (by simp [hrest c rfl])]

theorem isDigit_of_mem_repr {n : Nat} {c : Char} (h : c ∈ n.repr.toList) : c.isDigit = true := by
  rw [Nat.toList_repr] at h
  exact Nat.isDigit_of_mem_toDigits (by omega) (by omega) h

/-! ### Pieces without an occurrence -/

/-- No occurrence of `needle` starts in the piece, whatever comes after it. -/
inductive Avoids (needle : List Char) : List Char → Prop
  | nil : Avoids needle []
  | cons {c : Char} {piece : List Char}
      (first : ∀ rest, needle.isPrefixOf? (c :: (piece ++ rest)) = none)
      (tail : Avoids needle piece) : Avoids needle (c :: piece)

theorem Avoids.append {needle a b : List Char} (ha : Avoids needle a) (hb : Avoids needle b) :
    Avoids needle (a ++ b) := by
  induction ha with
  | nil => exact hb
  | cons first _ ih =>
    refine .cons (fun rest => ?_) ih
    have h := first (b ++ rest)
    rwa [← List.append_assoc] at h

/-- Where the first character of the needle is missing, no occurrence starts. -/
theorem avoids_of_not_mem {n : Char} {needle piece : List Char} (h : n ∉ piece) :
    Avoids (n :: needle) piece := by
  induction piece with
  | nil => exact .nil
  | cons c piece ih =>
    rw [List.mem_cons, not_or] at h
    refine .cons (fun rest => ?_) (ih h.2)
    exact isPrefixOf?_cons_of_ne h.1 _ _

/-- Two texts have different characters at a place that both have. -/
def differs : List Char → List Char → Bool
  | a :: as, b :: bs => a != b || differs as bs
  | _, _ => false

theorem isPrefixOf?_of_differs {needle piece : List Char} (h : differs needle piece = true)
    (rest : List Char) : needle.isPrefixOf? (piece ++ rest) = none := by
  induction needle generalizing piece with
  | nil => cases piece <;> cases h
  | cons n needle ih =>
    cases piece with
    | nil => cases h
    | cons c piece =>
      rw [List.cons_append]
      by_cases hc : n = c
      · subst hc
        rw [isPrefixOf?_cons_self]
        exact ih (by simpa [differs] using h)
      · exact isPrefixOf?_cons_of_ne hc _ _

/-- From every place on, the piece differs from the needle. -/
def differsThroughout (needle : List Char) : List Char → Bool
  | [] => true
  | c :: piece => differs needle (c :: piece) && differsThroughout needle piece

theorem avoids_of_differs {needle piece : List Char}
    (h : differsThroughout needle piece = true) : Avoids needle piece := by
  induction piece with
  | nil => exact .nil
  | cons c piece ih =>
    rw [differsThroughout, Bool.and_eq_true] at h
    exact .cons (isPrefixOf?_of_differs h.1) (ih h.2)

/-- A character of the needle that the piece lacks cannot come after the end of the piece either,
where a character stands that the needle does not have so early. -/
theorem isPrefixOf?_concat {front piece : List Char} (back : List Char) {d e : Char}
    (hd : d ∉ piece) (hde : d ≠ e) (he : e ∉ front) (rest : List Char) :
    (front ++ d :: back).isPrefixOf? (piece ++ e :: rest) = none := by
  -- along the front: as long as the two agree, both get shorter
  induction front generalizing piece with
  | nil =>
    cases piece with
    | nil => exact isPrefixOf?_cons_of_ne hde _ _
    | cons c piece =>
      rw [List.mem_cons, not_or] at hd
      exact isPrefixOf?_cons_of_ne hd.1 _ _
  | cons f front ih =>
    rw [List.mem_cons, not_or] at he
    cases piece with
    | nil => exact isPrefixOf?_cons_of_ne (Ne.symm he.1) _ _
    | cons c piece =>
      rw [List.mem_cons, not_or] at hd
      rw [List.cons_append, List.cons_append]
      by_cases hfc : f = c
      · subst hfc
        rw [isPrefixOf?_cons_self]
        exact ih hd.2 he.2
      · exact isPrefixOf?_cons_of_ne hfc _ _

theorem avoids_concat (front back : List Char) {piece : List Char} {d e : Char} (hd : d ∉ piece)
    (hde : d ≠ e) (he : e ∉ front) : Avoids (front ++ d :: back) (piece ++ [e]) := by
  induction piece with
  | nil => exact .cons (isPrefixOf?_concat back List.not_mem_nil hde he) .nil
  | cons c piece ih =>
    refine .cons (fun rest => ?_) (ih fun h => hd (List.mem_cons_of_mem c h))
    have h := isPrefixOf?_concat back hd hde he rest
    rwa [List.append_cons (c :: piece)] at h

/-! ### Splitting -/

theorem splitAtFirst?_append {needle piece : List Char} (h : Avoids needle piece)
    (rest : List Char) :
    splitAtFirst? needle (piece ++ rest)
      = (splitAtFirst? needle rest).map fun (before, after) => (piece ++ before, after) := by
  induction h with
  | nil => simp
  | cons first _ ih =>
    rw [List.cons_append, splitAtFirst?, first rest, ih]
    simp only [Option.map_map]
    rfl

@[simp] theorem splitAtFirst?_self (needle rest : List Char) :
    splitAtFirst? needle (needle ++ rest) = some ([], rest) :=
  splitAtFirst?_eq_some_iff.2 ⟨rfl, fun _ _ _ => Nat.zero_le _⟩

/-- The first occurrence is the one after a piece that has none. -/
theorem splitAtFirst?_needle {needle piece : List Char} (h : Avoids needle piece)
    (rest : List Char) :
    splitAtFirst? needle (piece ++ needle ++ rest) = some (piece, rest) := by
  rw [List.append_assoc, splitAtFirst?_append h, splitAtFirst?_self]
  simp

/-! ### Replacing -/

theorem replaceAll_eq {needle : List Char} (hn : needle ≠ []) (replacement text : List Char) :
    replaceAll needle replacement text
      = match splitAtFirst? needle text with
        | none => text
        | some (before, after) =>
          before ++ replacement ++ replaceAll needle replacement after := by
  rw [replaceAll, dif_neg hn]
  split
  · next h => rw [h]
  · next h => simp only [h]

/-- A needle at the front is replaced. -/
theorem replaceAll_needle {needle : List Char} (hn : needle ≠ []) (replacement rest : List Char) :
    replaceAll needle replacement (needle ++ rest)
      = replacement ++ replaceAll needle replacement rest := by
  rw [replaceAll_eq hn, splitAtFirst?_self]
  rfl

/-- A character at which no needle starts stays. -/
theorem replaceAll_cons {needle : List Char} {c : Char} {rest : List Char}
    (h : needle.isPrefixOf? (c :: rest) = none) (replacement : List Char) :
    replaceAll needle replacement (c :: rest) = c :: replaceAll needle replacement rest := by
  have hn : needle ≠ [] := by
    rintro rfl
    cases h
  -- the first needle of the whole text is the first one after `c`
  rw [replaceAll_eq hn, replaceAll_eq hn replacement rest, splitAtFirst?, h]
  cases splitAtFirst? needle rest <;> rfl

/-- A piece in which no needle starts stays. -/
theorem replaceAll_append {needle piece : List Char} (h : Avoids needle piece)
    (replacement rest : List Char) :
    replaceAll needle replacement (piece ++ rest)
      = piece ++ replaceAll needle replacement rest := by
  induction h with
  | nil => rfl
  | cons first _ ih => rw [List.cons_append, replaceAll_cons (first rest), ih, List.cons_append]

@[simp] theorem replaceAll_nil {needle : List Char} (hn : needle ≠ []) (replacement : List Char) :
    replaceAll needle replacement [] = [] := by
  rw [replaceAll_eq hn, splitAtFirst?, if_neg (by simpa using hn)]

end ErrorScaffold.Text
