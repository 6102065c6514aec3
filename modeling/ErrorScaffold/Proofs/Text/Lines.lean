/-
A text as its lines.

`unlines` puts lines together and `lines` takes a text apart again.  A preprocessor first deletes
each backslash that stands at the end of a line, with the newline (`splice`), so that one line may
be written as several.

* `lines_unlines` — lines come back as they went in, with an empty one after the last newline;
* `splice_append` and `splice_continued` — splicing goes over a text without backslashes as it
  is, and takes a continuation out.
-/
import ErrorScaffold.Text.Split

namespace ErrorScaffold.Text

/-- Lines as one text, with a newline after each. -/
def unlines (ls : List (List Char)) : List Char :=
  ls.flatMap fun l => l ++ ['\n']

/-- The lines of a text; what follows the last newline is one as well. -/
def lines (text : List Char) : List (List Char) :=
  text.splitOn '\n'

@[simp] theorem unlines_nil : unlines [] = [] := rfl

@[simp] theorem unlines_cons (l : List Char) (ls : List (List Char)) :
    unlines (l :: ls) = l ++ '\n' :: unlines ls := by
  rw [unlines, unlines, List.flatMap_cons, List.append_assoc]
  rfl

@[simp] theorem unlines_append (ls ls' : List (List Char)) :
    unlines (ls ++ ls') = unlines ls ++ unlines ls' :=
  List.flatMap_append

theorem lines_unlines {ls : List (List Char)} (h : ∀ l ∈ ls, '\n' ∉ l) :
    lines (unlines ls) = ls ++ [[]] := by
  induction ls with
  | nil => rfl
  | cons l ls ih =>
    rw [List.forall_mem_cons] at h
    rw [unlines_cons, lines, List.splitOn_append_cons_self_of_not_mem h.1]
    exact congrArg (l :: ·) (ih h.2)

/-- What is read line by line is read of the lines that went in, if nothing is read of an empty
one. -/
theorem filterMap_lines_unlines {α : Type} {read? : List Char → Option α} (hlast : read? [] = none)
    {ls : List (List Char)} (h : ∀ l ∈ ls, '\n' ∉ l) :
    (lines (unlines ls)).filterMap read? = ls.filterMap read? := by
  rw [lines_unlines h, List.filterMap_append, List.filterMap_cons_none hlast, List.filterMap_nil,
    List.append_nil]

/-- What was written for each item is read back, item by item. -/
theorem filterMap_written {α β γ : Type} {write : α → β} {read? : β → Option γ} {value : α → γ}
    {items : List α} (h : ∀ item ∈ items, read? (write item) = some (value item)) :
    (items.map write).filterMap read? = items.map value := by
  induction items with
  | nil => rfl
  | cons item items ih =>
    rw [List.forall_mem_cons] at h
    rw [List.map_cons, List.filterMap_cons_some h.1, ih h.2, List.map_cons]

/-- Two texts made of lines are the same only if the lines are. -/
theorem unlines_injective {ls ls' : List (List Char)} (h : ∀ l ∈ ls, '\n' ∉ l)
    (h' : ∀ l ∈ ls', '\n' ∉ l) (heq : unlines ls = unlines ls') : ls = ls' := by
  have hlines := congrArg lines heq
  rw [lines_unlines h, lines_unlines h'] at hlines
  exact List.append_cancel_right hlines

/-! ### Continued lines -/

/-- The text without its continuations: each backslash before a newline goes, and the newline. -/
def splice : List Char → List Char
  | c :: d :: rest =>
    if c = '\\' ∧ d = '\n' then splice rest else c :: splice (d :: rest)
  | rest => rest

theorem splice_cons_of_ne {c : Char} (h : c ≠ '\\') (rest : List Char) :
    splice (c :: rest) = c :: splice rest := by
  cases rest with
  | nil => rfl
  | cons d rest =>
    rw [splice, if_neg]
    rintro ⟨hc, -⟩
    exact h hc

theorem splice_append {a : List Char} (h : '\\' ∉ a) (b : List Char) :
    splice (a ++ b) = a ++ splice b := by
  induction a with
  | nil => rfl
  | cons c a ih =>
    rw [List.mem_cons, not_or] at h
    rw [List.cons_append, splice_cons_of_ne (fun hc => h.1 hc.symm), ih h.2, List.cons_append]

theorem splice_of_not_mem {a : List Char} (h : '\\' ∉ a) : splice a = a := by
  have happend := splice_append h []
  rw [List.append_nil] at happend
  exact happend.trans (List.append_nil a)

theorem splice_continued {a : List Char} (h : '\\' ∉ a) (b : List Char) :
    splice (a ++ '\\' :: '\n' :: b) = a ++ splice b := by
  rw [splice_append h, splice, if_pos ⟨rfl, rfl⟩]

end ErrorScaffold.Text
