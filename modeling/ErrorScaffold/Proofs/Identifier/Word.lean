/-
Words: the runs of characters that a reader takes for one name or one number.

Every identifier is a word and so are a prefix that is tried as one, a prefix with an identifier
after it, and the decimal digits of a number (`isWord_of_defect?_eq_none`, `IsWord.append`,
`isWord_repr`).  A word never holds a character that could end a line, a macro or a token.
-/
import ErrorScaffold.Schema
import ErrorScaffold.Proofs.Text.Search

namespace ErrorScaffold.Identifier

/-- Not empty, and all of it characters of identifiers. -/
def IsWord (text : String) : Prop :=
  text ≠ "" ∧ ∀ c ∈ text.toList, isPart c = true

theorem isPart_of_isStart {c : Char} (h : isStart c = true) : isPart c = true := by
  rw [isStart, Bool.or_eq_true] at h
  rw [isPart, Bool.or_eq_true]
  rcases h with h | h
  · left
    rw [Char.isAlphanum, Bool.or_eq_true]
    exact Or.inl h
  · exact Or.inr h

/-- A name has no defect when it is spelled like an identifier and is neither a keyword nor
reserved. -/
theorem defect?_eq_none_iff {name : String} {first : Char} {rest : List Char}
    (hname : name.toList = first :: rest) :
    defect? name = none ↔
      isStart first = true ∧ (∀ c ∈ rest, isPart c = true) ∧ name ∉ keywords ∧
        isReserved (first :: rest) = false := by
  unfold defect?
  rw [hname]
  -- the questions in the order in which `defect?` asks them; the first that fails is the defect
  by_cases hstart : isStart first = true
  · by_cases hparts : ∀ c ∈ rest, isPart c = true
    · have hfind : rest.find? (fun c => !isPart c) = none := by
        rw [List.find?_eq_none]
        intro c hc
        simp [hparts c hc]
      by_cases hk : name ∈ keywords
      · simp [hstart, hfind, hk]
      · simpa [hstart, hfind, hk] using fun _ => hparts
    · obtain ⟨c, hc⟩ : ∃ c, rest.find? (fun c => !isPart c) = some c := by
        rw [← Option.isSome_iff_exists, List.find?_isSome]
        simpa using hparts
      simp only [hstart, hc, hparts]
      simp
  · simp [hstart]

theorem exists_cons_of_defect?_eq_none {name : String} (h : defect? name = none) :
    ∃ first rest, name.toList = first :: rest := by
  cases hname : name.toList with
  | nil => simp [defect?, hname] at h
  | cons first rest => exact ⟨first, rest, rfl⟩

@[simp] theorem check_eq_ok_iff {name : String} : check name = .ok () ↔ defect? name = none := by
  unfold check
  split
  · next defect h => simp [h]
  · next h => simp [h]

theorem isWord_of_defect?_eq_none {name : String} (h : defect? name = none) : IsWord name := by
  obtain ⟨first, rest, hname⟩ := exists_cons_of_defect?_eq_none h
  obtain ⟨hstart, hparts, -⟩ := (defect?_eq_none_iff hname).1 h
  constructor
  · rintro rfl
    cases hname
  · rw [hname, List.forall_mem_cons]
    exact ⟨isPart_of_isStart hstart, hparts⟩

theorem IsWord.exists_eq_cons {word : String} (h : IsWord word) :
    ∃ c rest, word.toList = c :: rest := by
  rw [← List.ne_nil_iff_exists_cons, ne_eq, String.toList_eq_nil_iff]
  exact h.1

theorem IsWord.append {a b : String} (ha : ∀ c ∈ a.toList, isPart c = true) (hb : IsWord b) :
    IsWord (a ++ b) := by
  constructor
  · intro h
    exact hb.1 (String.append_eq_empty_iff.1 h).2
  · intro c hc
    rw [String.toList_append, List.mem_append] at hc
    exact hc.elim (ha c) (hb.2 c)

@[simp] theorem isWord_repr (n : Nat) : IsWord n.repr := by
  constructor
  · exact Nat.repr_ne_empty
  · intro c hc
    rw [isPart, Char.isAlphanum, Text.isDigit_of_mem_repr hc, Bool.or_true, Bool.true_or]

theorem IsWord.not_mem {word : String} (h : IsWord word) {c : Char} (hc : isPart c = false) :
    c ∉ word.toList := by
  intro hmem
  rw [h.2 c hmem] at hc
  cases hc

end ErrorScaffold.Identifier
