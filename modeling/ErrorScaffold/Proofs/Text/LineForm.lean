/-
Forms of lines: fixed characters with places for words among them.

A line is a form with words filled in.  After each place comes a character that no word holds, or
the end of the line, so reading a line by the form it was written in gives back the words, and
reading it by a form that differs from that in a fixed character gives nothing.

* `read?_fill` — what was filled in is read back;
* `read?_fill_eq_none` — forms that clash have no line in common;
* `Line.lines_textOf` — a text made of lines has these lines.
-/
import ErrorScaffold.Proofs.Identifier.Word
import ErrorScaffold.Proofs.Text.Lines
import ErrorScaffold.Proofs.Text.Search
import Mathlib.Data.List.DropRight

namespace ErrorScaffold

open Identifier

/-- One place of a form: a fixed character, or a word. -/
inductive LineForm.Symbol
  | char (c : Char)
  | name
  deriving DecidableEq

namespace LineForm

/-- The symbols of a template, in which each `%` is the place of a word. -/
def template (text : String) : List Symbol :=
  text.toList.map fun c => if c = '%' then .name else .char c

/-- No word could go on with what follows its place. -/
def isSeparated : List Symbol → Bool
  | [] => true
  | .char _ :: symbols => isSeparated symbols
  | [.name] => true
  | .name :: .name :: _ => false
  | .name :: .char c :: symbols => !isPart c && isSeparated symbols

/-- The number of words. -/
def arityOf (symbols : List Symbol) : Nat :=
  symbols.count .name

/-- The characters of a line. -/
def fill : List Symbol → List String → List Char
  | [], _ => []
  | .char c :: symbols, names => c :: fill symbols names
  | .name :: symbols, [] => fill symbols []
  | .name :: symbols, n :: names => n.toList ++ fill symbols names

/-- The words of a line, if it has the form. -/
def read? : List Symbol → List Char → Option (List String)
  | [], [] => some []
  | [], _ :: _ => none
  | .char _ :: _, [] => none
  | .char c :: symbols, d :: text => if c = d then read? symbols text else none
  | .name :: symbols, text =>
    if text.takeWhile isPart = [] then none
    else
      (read? symbols (text.dropWhile isPart)).map (String.ofList (text.takeWhile isPart) :: ·)

end LineForm

/-- A form for lines: it has one line, and nothing at a place of a word could be taken for more
of the word. -/
structure LineForm where
  symbols : List LineForm.Symbol
  arity : Nat
  wellFormed : LineForm.arityOf symbols = arity ∧ LineForm.isSeparated symbols = true ∧
    .char '\n' ∉ symbols := by decide
  deriving DecidableEq

/-- The words of a text that has a form. -/
def LineForm.read (form : LineForm) (text : List Char) : Option (List String) :=
  LineForm.read? form.symbols text

/-- A form and as many texts as it has places. -/
structure Line where
  form : LineForm
  names : List String
  fits : names.length = form.arity := by rfl

/-- The characters of a line. -/
def Line.chars (line : Line) : List Char :=
  LineForm.fill line.form.symbols line.names

def Line.text (line : Line) : String :=
  String.ofList line.chars

/-- Lines as one text. -/
def Line.textOf (ls : List Line) : List Char :=
  Text.unlines (ls.map Line.chars)

@[simp] theorem Line.textOf_nil : textOf [] = [] := rfl

@[simp] theorem Line.textOf_cons (l : Line) (ls : List Line) :
    textOf (l :: ls) = l.chars ++ '\n' :: textOf ls :=
  Text.unlines_cons l.chars (ls.map Line.chars)

@[simp] theorem Line.textOf_append (ls ls' : List Line) :
    textOf (ls ++ ls') = textOf ls ++ textOf ls' := by
  rw [textOf, List.map_append, Text.unlines_append]
  rfl

@[simp] theorem Line.length_names (line : Line) :
    line.names.length = LineForm.arityOf line.form.symbols :=
  line.fits.trans line.form.wellFormed.1.symm

/-- All that is filled in are words. -/
def Line.IsNamed (line : Line) : Prop :=
  ∀ n ∈ line.names, IsWord n

namespace LineForm

/-! ### Reading back -/

theorem takeWhile_word {word : String} (h : IsWord word) {rest : List Char}
    (hrest : ∀ c ∈ rest.head?, isPart c = false) :
    (word.toList ++ rest).takeWhile isPart = word.toList :=
  Text.takeWhile_run h.2 hrest

theorem dropWhile_word {word : String} (h : IsWord word) {rest : List Char}
    (hrest : ∀ c ∈ rest.head?, isPart c = false) :
    (word.toList ++ rest).dropWhile isPart = rest :=
  Text.dropWhile_run h.2 hrest

theorem isSeparated_tail {symbol : Symbol} {symbols : List Symbol}
    (h : isSeparated (symbol :: symbols) = true) : isSeparated symbols = true := by
  cases symbol with
  | char c => exact h
  | name =>
    match symbols, h with
    | [], _ => rfl
    | .char c :: symbols, h =>
      rw [isSeparated, Bool.and_eq_true] at h
      exact h.2

/-- After the place of a word the text does not go on with a character of words. -/
theorem head?_fill_of_isSeparated {symbols : List Symbol}
    (h : isSeparated (.name :: symbols) = true) (names : List String) :
    ∀ c ∈ (fill symbols names).head?, isPart c = false := by
  match symbols, h with
  | [], _ =>
    intro c hc
    cases hc
  | .char d :: symbols, h =>
    intro c hc
    rw [isSeparated, Bool.and_eq_true] at h
    rw [fill, List.head?_cons, Option.mem_some_iff] at hc
    rw [← hc]
    simpa using h.1

/-- Reading a name from the front of a text that goes on otherwise. -/
theorem read?_name {symbols : List Symbol} {word : String} (h : IsWord word) {rest : List Char}
    (hrest : ∀ c ∈ rest.head?, isPart c = false) :
    read? (.name :: symbols) (word.toList ++ rest)
      = (read? symbols rest).map (word :: ·) := by
  have hne : word.toList ≠ [] := fun hnil => h.1 (String.toList_eq_nil_iff.1 hnil)
  rw [read?, takeWhile_word h hrest, dropWhile_word h hrest, if_neg hne, String.ofList_toList]

theorem read?_fill {symbols : List Symbol} (hs : isSeparated symbols = true) :
    ∀ {names : List String}, names.length = arityOf symbols → (∀ n ∈ names, IsWord n) →
      read? symbols (fill symbols names) = some names := by
  -- by induction on the symbols: each place takes the next word, and ends where that word ends
  induction symbols with
  | nil =>
    intro names hfits _
    rw [List.eq_nil_of_length_eq_zero hfits]
    rfl
  | cons symbol symbols ih =>
    intro names hfits hwords
    cases symbol with
    | char c =>
      rw [fill, read?, if_pos rfl]
      exact ih (isSeparated_tail hs) (by simpa [arityOf] using hfits) hwords
    | name =>
      cases names with
      | nil => simp [arityOf] at hfits
      | cons n names =>
        rw [List.forall_mem_cons] at hwords
        rw [fill, read?_name hwords.1 (head?_fill_of_isSeparated hs names),
          ih (isSeparated_tail hs) (by simpa [arityOf] using hfits) hwords.2]
        rfl

/-! ### Forms that have no line in common -/

/-- Words go on over this symbol. -/
def Symbol.goesOn : Symbol → Bool
  | .char c => isPart c
  | .name => true

/-- Read by the first form, a line of the second fails at a fixed character, at the end of a word
or at its end. -/
def clashes : List Symbol → List Symbol → Bool
  | [], written => !written.isEmpty
  | .char _ :: _, [] => true
  | .char c :: reading, .char d :: written => c != d || clashes reading written
  | .char c :: reading, .name :: written =>
    !isPart c || (reading.dropWhile Symbol.goesOn).head? != (written.dropWhile Symbol.goesOn).head?
  | .name :: reading, written => clashes reading (written.dropWhile Symbol.goesOn)

/-- What can be read of a text can be read of it from the end of its first word on. -/
theorem read?_eq_none_of_dropWhile (reading : List Symbol) :
    ∀ {text : List Char},
      read? (reading.dropWhile Symbol.goesOn) (text.dropWhile isPart) = none →
        read? reading text = none := by
  induction reading with
  | nil =>
    intro text h
    cases text with
    | nil => exact h
    | cons d text => rfl
  | cons symbol reading ih =>
    intro text h
    cases symbol with
    | char c =>
      cases text with
      | nil => rfl
      | cons d text =>
        rw [read?]
        -- the characters are the same and go on a word, or end it, or differ at once
        by_cases hcd : c = d
        · subst hcd
          rw [if_pos rfl]
          by_cases hc : isPart c = true
          · rw [List.dropWhile_cons_of_pos hc, List.dropWhile_cons_of_pos (by exact hc)] at h
            exact ih h
          · rw [List.dropWhile_cons_of_neg hc, List.dropWhile_cons_of_neg (by exact hc), read?,
              if_pos rfl] at h
            exact h
        · rw [if_neg hcd]
    | name =>
      rw [read?]
      by_cases hword : text.takeWhile isPart = []
      · rw [if_pos hword]
      · -- the word at the front is gone, so cutting once more changes nothing
        have hdrop : (text.dropWhile isPart).dropWhile isPart = text.dropWhile isPart :=
          List.dropWhile_idempotent isPart text
        rw [List.dropWhile_cons_of_pos rfl, ← hdrop] at h
        rw [if_neg hword, ih h]
        rfl

/-- Dropping the word at the front of a line drops the symbols that it comes from. -/
theorem exists_fill_eq_dropWhile (symbols : List Symbol) :
    ∀ {names : List String}, names.length = arityOf symbols → (∀ n ∈ names, IsWord n) →
      ∃ names', names'.length = arityOf (symbols.dropWhile Symbol.goesOn) ∧
        (∀ n ∈ names', IsWord n) ∧
        (fill symbols names).dropWhile isPart
          = fill (symbols.dropWhile Symbol.goesOn) names' := by
  induction symbols with
  | nil =>
    intro names hfits hwords
    exact ⟨names, hfits, hwords, rfl⟩
  | cons symbol symbols ih =>
    intro names hfits hwords
    cases symbol with
    | char c =>
      have hfits' : names.length = arityOf symbols := by simpa [arityOf] using hfits
      -- a part of the word is dropped with its symbol, and anything else stops both
      by_cases hc : isPart c = true
      · rw [fill, List.dropWhile_cons_of_pos hc, List.dropWhile_cons_of_pos (by exact hc)]
        exact ih hfits' hwords
      · rw [fill, List.dropWhile_cons_of_neg hc, List.dropWhile_cons_of_neg (by exact hc)]
        exact ⟨names, hfits, hwords, rfl⟩
    | name =>
      cases names with
      | nil => simp [arityOf] at hfits
      | cons n names =>
        rw [List.forall_mem_cons] at hwords
        rw [fill, List.dropWhile_append_of_pos hwords.1.2, List.dropWhile_cons_of_pos rfl]
        exact ih (by simpa [arityOf] using hfits) hwords.2

/-- After a word the first fixed character decides. -/
theorem read?_fill_dropWhile {reading written : List Symbol}
    (h : (reading.dropWhile Symbol.goesOn).head? ≠ (written.dropWhile Symbol.goesOn).head?)
    (names : List String) :
    read? (reading.dropWhile Symbol.goesOn) (fill (written.dropWhile Symbol.goesOn) names)
      = none := by
  -- what is left of a form after a word starts with a character that ends words, never with a name
  have hreading := List.head?_dropWhile_not Symbol.goesOn reading
  have hwritten := List.head?_dropWhile_not Symbol.goesOn written
  cases hr : reading.dropWhile Symbol.goesOn with
  | nil =>
    cases hw : written.dropWhile Symbol.goesOn with
    | nil =>
      rw [hr, hw] at h
      exact absurd rfl h
    | cons symbol written =>
      cases symbol with
      | char d => rfl
      | name =>
        rw [hw] at hwritten
        cases hwritten
  | cons symbol reading =>
    cases symbol with
    | char c =>
      cases hw : written.dropWhile Symbol.goesOn with
      | nil => rfl
      | cons symbol written =>
        cases symbol with
        | char d =>
          rw [fill, read?, if_neg]
          rintro rfl
          rw [hr, hw] at h
          exact h rfl
        | name =>
          rw [hw] at hwritten
          cases hwritten
    | name =>
      rw [hr] at hreading
      cases hreading

theorem read?_fill_eq_none (reading : List Symbol) :
    ∀ {written : List Symbol} {names : List String}, clashes reading written = true →
      names.length = arityOf written → (∀ n ∈ names, IsWord n) →
      read? reading (fill written names) = none := by
  induction reading with
  | nil =>
    intro written names hclash hfits hwords
    match written, names with
    | [], _ => cases hclash
    | .char c :: written, names => rfl
    | .name :: written, [] => simp [arityOf] at hfits
    | .name :: written, n :: names =>
      -- the form is at its end, but a word has a first character
      obtain ⟨c, rest, hn⟩ := (hwords n List.mem_cons_self).exists_eq_cons
      rw [fill, hn]
      rfl
  | cons symbol reading ih =>
    intro written names hclash hfits hwords
    cases symbol with
    | char c =>
      match written, names with
      | [], _ => rfl
      | .char d :: written, names =>
        rw [fill, read?]
        by_cases hcd : c = d
        · rw [if_pos hcd]
          have hclash' : clashes reading written = true := by
            simpa [clashes, hcd] using hclash
          exact ih hclash' (by simpa [arityOf] using hfits) hwords
        · rw [if_neg hcd]
      | .name :: written, [] => simp [arityOf] at hfits
      | .name :: written, n :: names =>
        by_cases hc : isPart c = true
        · -- the words here may agree, but not what comes after them
          rw [clashes, hc, Bool.not_true, Bool.false_or, bne_iff_ne] at hclash
          obtain ⟨names', -, -, hdrop⟩ := exists_fill_eq_dropWhile (.name :: written) hfits hwords
          refine read?_eq_none_of_dropWhile (.char c :: reading) ?_
          rw [hdrop, List.dropWhile_cons_of_pos (by exact hc), List.dropWhile_cons_of_pos rfl]
          exact read?_fill_dropWhile hclash names'
        · -- the line goes on with a word here, and no word starts with `c`
          rw [Bool.not_eq_true] at hc
          have hn := hwords n List.mem_cons_self
          obtain ⟨d, rest, hdrest⟩ := hn.exists_eq_cons
          rw [fill, hdrest, List.cons_append, read?, if_neg]
          rintro rfl
          exact hn.not_mem hc (by rw [hdrest]; exact List.mem_cons_self)
    | name =>
      rw [read?]
      by_cases hword : (fill written names).takeWhile isPart = []
      · rw [if_pos hword]
      · -- the place takes the whole word, whatever symbols of the line it comes from
        rw [if_neg hword]
        obtain ⟨names', hfits', hwords', hdrop⟩ := exists_fill_eq_dropWhile written hfits hwords
        rw [hdrop, ih (by simpa [clashes] using hclash) hfits' hwords']
        rfl

end LineForm

/-- A line reads back, by its form, as what was filled in. -/
theorem Line.read_chars {line : Line} (h : line.IsNamed) :
    line.form.read line.chars = some line.names :=
  LineForm.read?_fill line.form.wellFormed.2.1 line.length_names h

/-- No line reads by a form that clashes with its own. -/
theorem Line.read_chars_of_clashes {line : Line} (h : line.IsNamed) {form : LineForm}
    (hclash : LineForm.clashes form.symbols line.form.symbols = true) :
    form.read line.chars = none :=
  LineForm.read?_fill_eq_none form.symbols hclash line.length_names h

/-- Among forms of which all others clash with its own, a line reads by its own. -/
theorem Line.findSome?_read {line : Line} (hn : line.IsNamed) {readers : List LineForm}
    (h : ∀ form ∈ readers, form = line.form ∨
      LineForm.clashes form.symbols line.form.symbols = true)
    (hmem : line.form ∈ readers) :
    readers.findSome? (fun form => form.read line.chars) = some line.names := by
  induction readers with
  | nil => cases hmem
  | cons form readers ih =>
    rw [List.forall_mem_cons] at h
    rcases h.1 with rfl | hclash
    · rw [List.findSome?_cons, read_chars hn]
    · rw [List.findSome?_cons, read_chars_of_clashes hn hclash]
      rcases List.mem_cons.1 hmem with rfl | hmem
      · -- no form clashes with itself, since it reads its lines
        cases (read_chars hn).symm.trans (read_chars_of_clashes hn hclash)
      · exact ih h.2 hmem

/-! ### The characters of a line -/

theorem LineForm.mem_fill {c : Char} (symbols : List Symbol) :
    ∀ {names : List String}, c ∈ fill symbols names →
      .char c ∈ symbols ∨ ∃ n ∈ names, c ∈ n.toList := by
  induction symbols with
  | nil =>
    intro names h
    cases h
  | cons symbol symbols ih =>
    intro names h
    -- the place of a name is filled if there is a name left for it
    match symbol, names with
    | .char d, names =>
      rw [fill, List.mem_cons] at h
      rcases h with rfl | h
      · exact Or.inl List.mem_cons_self
      · exact (ih h).imp_left (List.mem_cons_of_mem _)
    | .name, [] => exact (ih h).imp_left (List.mem_cons_of_mem _)
    | .name, n :: names =>
      rw [fill, List.mem_append] at h
      rcases h with h | h
      · exact Or.inr ⟨n, List.mem_cons_self, h⟩
      · rcases ih h with h | ⟨n', hn', hc⟩
        · exact Or.inl (List.mem_cons_of_mem _ h)
        · exact Or.inr ⟨n', List.mem_cons_of_mem _ hn', hc⟩

/-- A character that no word holds stands in a line only where the form has it. -/
theorem Line.not_mem_chars {line : Line} (h : line.IsNamed) {c : Char} (hc : isPart c = false)
    (hform : .char c ∉ line.form.symbols) : c ∉ line.chars := by
  intro hmem
  rcases LineForm.mem_fill line.form.symbols hmem with hsymbol | ⟨n, hn, hcn⟩
  · exact hform hsymbol
  · exact (h n hn).not_mem hc hcn

theorem Line.not_mem_textOf {ls : List Line} (h : ∀ line ∈ ls, line.IsNamed) {c : Char}
    (hc : isPart c = false) (hnewline : c ≠ '\n')
    (hform : ∀ line ∈ ls, .char c ∉ line.form.symbols) : c ∉ textOf ls := by
  induction ls with
  | nil => exact List.not_mem_nil
  | cons line ls ih =>
    rw [List.forall_mem_cons] at h hform
    rw [textOf_cons, List.mem_append, List.mem_cons, not_or, not_or]
    exact ⟨line.not_mem_chars h.1 hc hform.1, hnewline, ih h.2 hform.2⟩

theorem LineForm.head?_fill_ne {symbols : List Symbol} {names : List String}
    (hfits : names.length = arityOf symbols) (hwords : ∀ n ∈ names, IsWord n) {c : Char}
    (hc : isPart c = false) (hform : symbols.head? ≠ some (.char c)) :
    (fill symbols names).head? ≠ some c := by
  intro hhead
  match symbols, names with
  | [], _ => cases hhead
  | .char d :: symbols, names =>
    cases hhead
    exact hform rfl
  | .name :: symbols, [] => simp [arityOf] at hfits
  | .name :: symbols, n :: names =>
    obtain ⟨d, rest, hn⟩ := (hwords n List.mem_cons_self).exists_eq_cons
    rw [fill, hn] at hhead
    cases hhead
    exact (hwords n List.mem_cons_self).not_mem hc (by rw [hn]; exact List.mem_cons_self)

/-- A character that no word holds starts a line only where it starts the form. -/
theorem Line.head?_chars_ne {line : Line} (h : line.IsNamed) {c : Char} (hc : isPart c = false)
    (hform : line.form.symbols.head? ≠ some (.char c)) : line.chars.head? ≠ some c :=
  LineForm.head?_fill_ne line.length_names h hc hform

theorem Line.newline_not_mem {line : Line} (h : line.IsNamed) : '\n' ∉ line.chars :=
  line.not_mem_chars h (by decide) line.form.wellFormed.2.2

/-- A text made of lines has these lines, and an empty one after the last newline. -/
theorem Line.lines_textOf {ls : List Line} (h : ∀ line ∈ ls, line.IsNamed) :
    Text.lines (textOf ls) = ls.map chars ++ [[]] := by
  refine Text.lines_unlines fun l hl => ?_
  obtain ⟨line, hline, rfl⟩ := List.mem_map.1 hl
  exact newline_not_mem (h line hline)

theorem Line.filterMap_lines_textOf {α : Type} {read? : List Char → Option α}
    (hlast : read? [] = none) {ls : List Line} (h : ∀ line ∈ ls, line.IsNamed) :
    (Text.lines (textOf ls)).filterMap read? = (ls.map chars).filterMap read? := by
  refine Text.filterMap_lines_unlines hlast fun l hl => ?_
  obtain ⟨line, hline, rfl⟩ := List.mem_map.1 hl
  exact newline_not_mem (h line hline)

end ErrorScaffold
