/-
The tokens of a text.

A token is a run of characters of identifiers, as long as it goes, or one other character; blanks
only separate.

* `tokens_append` — a text is cut behind each character that is no part of a word;
* `Line.tokens_chars` — a word that was filled in between such characters is one token.
-/
import ErrorScaffold.Proofs.Text.LineForm

namespace ErrorScaffold

open Identifier

/-- A word, or a character between words. -/
inductive Token
  | word (text : String)
  | sign (c : Char)
  deriving DecidableEq

namespace Text

/-- The word that has been read so far. -/
def wordToken : List Char → List Token
  | [] => []
  | c :: run => [.word (String.ofList (c :: run))]

/-- What a character between words stands for. -/
def signToken (c : Char) : List Token :=
  if c.isWhitespace then [] else [.sign c]

/-- The tokens of a text that comes after `run`, the beginning of a word. -/
def tokensAfter (run : List Char) : List Char → List Token
  | [] => wordToken run
  | c :: rest =>
    if isPart c then tokensAfter (run ++ [c]) rest
    else wordToken run ++ signToken c ++ tokensAfter [] rest

def tokens (text : List Char) : List Token :=
  tokensAfter [] text

theorem tokensAfter_append {c : Char} (hc : isPart c = false) (run text rest : List Char) :
    tokensAfter run (text ++ c :: rest) = tokensAfter run (text ++ [c]) ++ tokens rest := by
  induction text generalizing run with
  | nil => simp [tokensAfter, hc, wordToken, tokens]
  | cons d text ih =>
    rw [List.cons_append, List.cons_append, tokensAfter, tokensAfter, ih, ih]
    split
    · rfl
    · simp only [List.append_assoc]

/-- A text is cut behind a character that is no part of a word. -/
theorem tokens_append {c : Char} (hc : isPart c = false) (text rest : List Char) :
    tokens (text ++ c :: rest) = tokens (text ++ [c]) ++ tokens rest :=
  tokensAfter_append hc [] text rest

theorem tokensAfter_concat {c : Char} (hc : isPart c = false) (run text : List Char) :
    tokensAfter run (text ++ [c]) = tokensAfter run text ++ signToken c := by
  induction text generalizing run with
  | nil => simp [tokensAfter, hc, wordToken]
  | cons d text ih =>
    rw [List.cons_append, tokensAfter, tokensAfter, ih, ih]
    split
    · rfl
    · simp only [List.append_assoc]

/-- A character that is no part of a word changes nothing before it. -/
theorem tokens_concat {c : Char} (hc : isPart c = false) (text : List Char) :
    tokens (text ++ [c]) = tokens text ++ signToken c :=
  tokensAfter_concat hc [] text

/-- A blank has no other meaning than to separate. -/
@[simp] theorem tokens_blank (text : List Char) : tokens (text ++ [' ']) = tokens text :=
  (tokens_concat (by decide) text).trans (List.append_nil _)

@[simp] theorem tokens_intercalate (xs : List String) :
    tokens (" ".intercalate xs).toList = xs.flatMap fun x => tokens x.toList := by
  induction xs with
  | nil => rfl
  | cons x xs ih =>
    by_cases hxs : xs = []
    · rw [hxs, String.intercalate_singleton, List.flatMap_singleton]
    · have htext : (" ".intercalate (x :: xs)).toList
          = x.toList ++ ' ' :: (" ".intercalate xs).toList := by
        rw [String.intercalate_cons_of_ne_nil hxs]
        simp
      rw [htext, tokens_append (by decide), tokens_blank, ih, List.flatMap_cons]

/-- A word comes to its end where the text does not go on with a part of it. -/
theorem tokensAfter_word {word : String} (h : IsWord word) {rest : List Char}
    (hrest : ∀ c ∈ rest.head?, isPart c = false) :
    tokensAfter [] (word.toList ++ rest) = .word word :: tokens rest := by
  -- the characters of the word gather in the run before it
  have hrun : ∀ run chars : List Char, (∀ c ∈ chars, isPart c = true) →
      tokensAfter run (chars ++ rest) = tokensAfter (run ++ chars) rest := by
    intro run chars hchars
    induction chars generalizing run with
    | nil => rw [List.nil_append, List.append_nil]
    | cons c chars ih =>
      rw [List.forall_mem_cons] at hchars
      rw [List.cons_append, tokensAfter, if_pos hchars.1, ih _ hchars.2, List.append_assoc,
        List.singleton_append]
  have hword : wordToken word.toList = [.word word] := by
    obtain ⟨c, chars, hcons⟩ := h.exists_eq_cons
    rw [hcons, wordToken, ← hcons, String.ofList_toList]
  rw [hrun [] _ h.2, List.nil_append]
  -- the run is given out at the end of the text or at the next character
  cases rest with
  | nil => exact hword
  | cons c rest =>
    have hc : isPart c = false := hrest c rfl
    rw [tokens, tokensAfter, tokensAfter, hword, if_neg (by simp [hc]), if_neg (by simp [hc])]
    rfl

end Text

/-! ### Lines -/

namespace LineForm

open Text

/-- No word could go on from what comes before its place. -/
def isSpaced : (inWord : Bool) → List Symbol → Bool
  | _, [] => true
  | _, .char c :: symbols => isSpaced (isPart c) symbols
  | inWord, .name :: symbols => !inWord && isSpaced false symbols

/-- The tokens of the form with words filled in, after the beginning of a word. -/
def tokensAfter (run : List Char) : List Symbol → List String → List Token
  | [], _ => wordToken run
  | .char c :: symbols, names =>
    if isPart c then tokensAfter (run ++ [c]) symbols names
    else wordToken run ++ signToken c ++ tokensAfter [] symbols names
  | .name :: symbols, [] => tokensAfter run symbols []
  | .name :: symbols, n :: names => .word n :: tokensAfter [] symbols names

theorem tokensAfter_fill {symbols : List Symbol} {inWord : Bool}
    (hspaced : isSpaced inWord symbols = true) (hseparated : isSeparated symbols = true) :
    ∀ {run : List Char} {names : List String}, (inWord = false → run = []) →
      names.length = arityOf symbols → (∀ n ∈ names, IsWord n) →
      Text.tokensAfter run (fill symbols names) = tokensAfter run symbols names := by
  -- by induction on the symbols: where a word is filled in, no other has begun
  induction symbols generalizing inWord with
  | nil =>
    intro run names _ _ _
    rfl
  | cons symbol symbols ih =>
    intro run names hrun hfits hwords
    cases symbol with
    | char c =>
      have ih := @ih _ hspaced (isSeparated_tail hseparated)
      have hfits : names.length = arityOf symbols := by simpa [arityOf] using hfits
      rw [fill, Text.tokensAfter, tokensAfter]
      split
      · next hc => exact ih (fun h => absurd hc (by simp [h])) hfits hwords
      · rw [ih (fun _ => rfl) hfits hwords]
    | name =>
      rw [isSpaced, Bool.and_eq_true, Bool.not_eq_true'] at hspaced
      cases names with
      | nil => simp [arityOf] at hfits
      | cons n names =>
        rw [List.forall_mem_cons] at hwords
        obtain rfl := hrun hspaced.1
        rw [fill, tokensAfter_word hwords.1 (head?_fill_of_isSeparated hseparated names), tokens,
          ih hspaced.2 (isSeparated_tail hseparated) (fun _ => rfl)
            (by simpa [arityOf] using hfits) hwords.2]
        rfl

end LineForm

/-- The tokens of a line are those of its form, with the words filled in. -/
theorem Line.tokens_chars {line : Line} (h : line.IsNamed)
    (hspaced : LineForm.isSpaced false line.form.symbols = true) :
    Text.tokens line.chars = LineForm.tokensAfter [] line.form.symbols line.names :=
  LineForm.tokensAfter_fill hspaced line.form.wellFormed.2.1 (fun _ => rfl) line.length_names h

end ErrorScaffold
