/-
Which tables of a page count.

The classes of a table are what its class attribute holds between blanks.  A table counts if one of
them has `standard-table` in it with no word character next to that.  This is so for the class
`standard-table` itself, and also for a class such as `non-standard-table`, since a hyphen is no
word character.

* `mem_classNames_iff` — the classes are the pieces between the blanks;
* `isMarked_iff_counts` — the mark is looked for in the whole attribute, and found in one class;
* `tagNames_of_counting_tables` — the names of a page are those in the tables that count;
* `tagNames_of_hyphenated_class` — a table that has not the class `standard-table` and counts.
-/
import ErrorScaffold.Proofs.Page.Listing
import Mathlib.Data.List.TakeWhile

namespace ErrorScaffold.Page

open Text

/-! ### A piece of a text and what is next to it -/

section

variable {P Q : Char → Prop} {piece name text : List Char}

theorem StandsBetween.refl (text : List Char) : StandsBetween P text text :=
  ⟨[], [], by simp, nofun, nofun⟩

theorem StandsBetween.mono (h : StandsBetween P piece text) (hPQ : ∀ c, P c → Q c) :
    StandsBetween Q piece text := by
  obtain ⟨before, after, htext, hbefore, hafter⟩ := h
  exact ⟨before, after, htext, fun c hc => hPQ c (hbefore c hc), fun c hc => hPQ c (hafter c hc)⟩

theorem StandsBetween.trans (h : StandsBetween P piece name) (h' : StandsBetween P name text) :
    StandsBetween P piece text := by
  obtain ⟨front, back, rfl, hfront, hback⟩ := h
  obtain ⟨before, after, rfl, hbefore, hafter⟩ := h'
  refine ⟨before ++ front, back ++ after, by simp, fun c hc => ?_, fun c hc => ?_⟩
  · -- what is before the piece is inside the name, unless the piece is its start
    rw [List.getLast?_append] at hc
    cases hlast : front.getLast? with
    | none =>
      rw [hlast, Option.none_or] at hc
      exact hbefore c hc
    | some d =>
      rw [hlast, Option.some_or] at hc
      exact hfront c (hlast.trans hc)
  · -- and what is behind it likewise
    rw [List.head?_append] at hc
    cases hhead : back.head? with
    | none =>
      rw [hhead, Option.none_or] at hc
      exact hafter c hc
    | some d =>
      rw [hhead, Option.some_or] at hc
      exact hback c (hhead.trans hc)

end

/-- A piece of a text has no separator in it, and nothing but a separator is next to it. -/
theorem standsBetween_of_mem_splitOnP {p : Char → Bool} {piece text : List Char}
    (h : piece ∈ text.splitOnP p) :
    (∀ c ∈ piece, p c = false) ∧ StandsBetween (fun c => p c = true) piece text := by
  induction hn : text.length using Nat.strongRecOn generalizing text with
  | ind n ih =>
    by_cases hmem : ∃ c ∈ text, p c = true
    · -- cut at a separator: the piece is on one of the two sides
      obtain ⟨c, hc, hsep⟩ := hmem
      obtain ⟨front, back, rfl⟩ := List.append_of_mem hc
      rw [List.length_append, List.length_cons] at hn
      rw [List.splitOnP_append_cons _ _ hsep, List.mem_append] at h
      rcases h with h | h
      · obtain ⟨hpiece, hstands⟩ := ih front.length (by omega) h rfl
        refine ⟨hpiece, hstands.trans ⟨[], c :: back, rfl, nofun, ?_⟩⟩
        rintro _ ⟨⟩
        exact hsep
      · obtain ⟨hpiece, hstands⟩ := ih back.length (by omega) h rfl
        refine ⟨hpiece, hstands.trans ⟨front ++ [c], [], by simp, ?_, nofun⟩⟩
        intro d hd
        rw [List.getLast?_concat] at hd
        cases hd
        exact hsep
    · have hnone : ∀ c ∈ text, p c = false := by
        intro c hc
        rw [← Bool.not_eq_true]
        exact fun hsep => hmem ⟨c, hc, hsep⟩
      rw [List.splitOnP_eq_singleton hnone, List.mem_singleton] at h
      rw [h]
      exact ⟨hnone, .refl text⟩

/-- The pieces of a text between the separators are the runs without one that nothing but a
separator is next to. -/
theorem mem_splitOnP_iff {p : Char → Bool} {piece text : List Char} :
    piece ∈ text.splitOnP p ↔
      (∀ c ∈ piece, p c = false) ∧ StandsBetween (fun c => p c = true) piece text := by
  refine ⟨standsBetween_of_mem_splitOnP, ?_⟩
  rintro ⟨hpiece, before, after, rfl, hbefore, hafter⟩
  -- the piece comes first where nothing stands before it
  have hrest : piece ∈ (piece ++ after).splitOnP p := by
    cases after with
    | nil =>
      rw [List.append_nil, List.splitOnP_eq_singleton hpiece]
      exact List.mem_cons_self
    | cons c after =>
      rw [List.splitOnP_append_cons_of_forall_mem hpiece c (hafter c rfl)]
      exact List.mem_cons_self
  rw [List.append_assoc]
  rcases List.eq_nil_or_concat' before with rfl | ⟨front, c, rfl⟩
  · exact hrest
  · have hsep : p c = true := hbefore c List.getLast?_concat
    rw [List.append_assoc, List.singleton_append, List.splitOnP_append_cons _ _ hsep]
    exact List.mem_append_right _ hrest

/-- A text can be cut at its first separator, or after its end. -/
theorem exists_append_of_first (p : Char → Bool) (text : List Char) :
    ∃ front back, text = front ++ back ∧ (∀ c ∈ front, p c = false) ∧
      ∀ c ∈ back.head?, p c = true := by
  refine ⟨text.takeWhile fun c => !p c, text.dropWhile fun c => !p c,
    List.takeWhile_append_dropWhile.symm, fun c hc => ?_, fun c hc => ?_⟩
  · simpa using List.mem_takeWhile_imp hc
  · have hnot := List.head?_dropWhile_not (fun c => !p c) text
    rw [hc] at hnot
    simpa using hnot

/-- A text can be cut after its last separator, or before its start. -/
theorem exists_append_of_last (p : Char → Bool) (text : List Char) :
    ∃ front back, text = front ++ back ∧ (∀ c ∈ front.getLast?, p c = true) ∧
      ∀ c ∈ back, p c = false := by
  obtain ⟨front, back, htext, hfront, hback⟩ := exists_append_of_first p text.reverse
  refine ⟨back.reverse, front.reverse, ?_, fun c hc => ?_, fun c hc => ?_⟩
  · rw [← List.reverse_append, ← htext, List.reverse_reverse]
  · rw [List.getLast?_reverse] at hc
    exact hback c hc
  · exact hfront c (List.mem_reverse.1 hc)

/-! ### Classes -/

/-- The characters that separate classes. -/
def isClassBlank (c : Char) : Bool :=
  c == ' ' || c == '\t' || c == '\n' || c == '\x0c' || c == '\r'

/-- The classes in the value of a class attribute. -/
def classNames (value : List Char) : List (List Char) :=
  (value.splitOnP isClassBlank).filter fun name => !name.isEmpty

theorem mem_classNames_iff {name value : List Char} :
    name ∈ classNames value ↔
      name ≠ [] ∧ (∀ c ∈ name, isClassBlank c = false) ∧
        StandsBetween (fun c => isClassBlank c = true) name value := by
  rw [classNames, List.mem_filter, mem_splitOnP_iff, Bool.not_eq_true', List.isEmpty_eq_false_iff]
  exact And.comm

theorem isWordChar_of_isClassBlank {c : Char} (h : isClassBlank c = true) :
    isWordChar c = false := by
  simp only [isClassBlank, Bool.or_eq_true, beq_iff_eq] at h
  rcases h with (((rfl | rfl) | rfl) | rfl) | rfl <;> decide

theorem isClassBlank_of_mem_standardTableWord {c : Char} (h : c ∈ standardTableWord) :
    isClassBlank c = false := by
  have hall : standardTableWord.all (fun c => !isClassBlank c) = true := by decide
  simpa using List.all_eq_true.1 hall c h

/-- A word without blanks that stands alone does so in one of the classes. -/
theorem standsAlone_iff_exists_className {word value : List Char} (hne : word ≠ [])
    (hword : ∀ c ∈ word, isClassBlank c = false) :
    StandsAlone word value ↔ ∃ name ∈ classNames value, StandsAlone word name := by
  constructor
  · rintro ⟨before, after, rfl, hbefore, hafter⟩
    -- the class reaches from the last blank before the word to the first one after it
    obtain ⟨u, x, rfl, hu, hx⟩ := exists_append_of_last isClassBlank before
    obtain ⟨y, v, rfl, hy, hv⟩ := exists_append_of_first isClassBlank after
    refine ⟨x ++ word ++ y, mem_classNames_iff.2 ⟨?_, ?_, u, v, by simp, hu, hv⟩,
      x, y, rfl, fun c hc => ?_, fun c hc => ?_⟩
    · simp [hne]
    · simp only [List.mem_append]
      rintro c ((hc | hc) | hc)
      · exact hx c hc
      · exact hword c hc
      · exact hy c hc
    · refine hbefore c ?_
      rw [List.getLast?_append, hc]
      rfl
    · refine hafter c ?_
      rw [List.head?_append, hc]
      rfl
  · rintro ⟨name, hname, halone⟩
    have hstands := (mem_classNames_iff.1 hname).2.2
    exact halone.trans (hstands.mono fun _ hc => isWordChar_of_isClassBlank hc)

namespace ClassedTable

variable (t : ClassedTable)

/-- The classes of the table. -/
def classNames : List (List Char) :=
  Page.classNames t.classes.toList

/-- One of the classes has the mark of a standard table in it, standing alone. -/
def Counts : Prop :=
  ∃ name ∈ t.classNames, StandsAlone standardTableWord name

theorem isMarked_iff_counts : t.IsMarked ↔ t.Counts :=
  standsAlone_iff_exists_className (by decide) fun _ => isClassBlank_of_mem_standardTableWord

instance : Decidable t.Counts :=
  decidable_of_iff _ t.isMarked_iff_counts

theorem counts_of_mem (h : standardTableWord ∈ t.classNames) : t.Counts :=
  ⟨standardTableWord, h, .refl _⟩

end ClassedTable

/-- **Which tables contribute names.**  The names of a page are those in the tables that count, in
the order of the page.  A table with the class `standard-table` counts; that no other table does is
true only as long as no other class has that word standing alone in it. -/
theorem tagNames_of_counting_tables (page : Listing) :
    tagNames page.text = (page.tables.filter fun t => t.Counts).flatMap ClassedTable.names ∧
    ∀ t : ClassedTable,
      (standardTableWord ∈ t.classNames → t.Counts) ∧
      ((∀ name ∈ t.classNames, StandsAlone standardTableWord name → name = standardTableWord) →
        t.Counts → standardTableWord ∈ t.classNames) := by
  refine ⟨?_, fun t => ⟨t.counts_of_mem, ?_⟩⟩
  · rw [tagNames_listing]
    congr 1
    exact List.filter_congr fun t _ => decide_eq_decide.2 t.isMarked_iff_counts
  · rintro honly ⟨name, hname, halone⟩
    rwa [← honly name hname halone]

theorem lacks_opening_empty : Lacks ['<'] "" :=
  nofun

theorem lacks_brackets_empty : Lacks ['<', '>'] "" :=
  nofun

theorem head?_empty : ∀ c ∈ "".toList.head?, c = ' ' :=
  nofun

/-- A row in which nothing stands beside the link and its text. -/
def Link.plain (address content : String)
    (address_lacks : Lacks ['\x22', '<', '>'] address) (content_lacks : Lacks ['<'] content) :
    Link where
  address := address
  lead := ""
  attributes := ""
  content := content
  tail := ""
  address_lacks := address_lacks
  lead_lacks := lacks_opening_empty
  attributes_lacks := lacks_brackets_empty
  attributes_blank := head?_empty
  content_lacks := content_lacks
  tail_lacks := lacks_opening_empty

/-- A table with the class `standard-table` after another. -/
def wideTable : ClassedTable where
  lead := "Text"
  classes := "fullwidth-table\tstandard-table"
  links := [.plain "/a" "&lt;a&gt;" (by decide) (by decide),
    .plain "/b" "&lt;b&gt;, &lt;strong&gt;" (by decide) (by decide)]
  lead_lacks := by decide
  classes_lacks := by decide

/-- A table whose classes are not marked: a letter comes after the word. -/
def pluralTable : ClassedTable where
  lead := "Obsolete"
  classes := "standard-tables"
  links := [.plain "/blink" "&lt;blink&gt;" (by decide) (by decide)]
  lead_lacks := by decide
  classes_lacks := by decide

theorem tagNames_of_wide_and_plural :
    let page : Listing := ⟨[pluralTable, wideTable], "", by decide⟩
    (standardTableWord ∈ wideTable.classNames ∧ wideTable.Counts) ∧
      (∀ name ∈ pluralTable.classNames,
        StandsAlone standardTableWord name → name = standardTableWord) ∧
      ¬pluralTable.Counts ∧ tagNames page.text = ["a", "b", "strong"] := by
  intro page
  obtain ⟨hnames, htables⟩ := tagNames_of_counting_tables page
  have hmem : standardTableWord ∈ wideTable.classNames := by decide
  have honly : ∀ name ∈ pluralTable.classNames,
      StandsAlone standardTableWord name → name = standardTableWord := by decide +kernel
  have hnot : ¬pluralTable.Counts := fun hcounts =>
    absurd ((htables pluralTable).2 honly hcounts) (by decide)
  refine ⟨⟨hmem, (htables wideTable).1 hmem⟩, honly, hnot, ?_⟩
  rw [hnames]
  decide +kernel

/-- A table with another class that counts: a hyphen before the word leaves it alone. -/
def hyphenatedTable : ClassedTable where
  lead := ""
  classes := "non-standard-table"
  links := [.plain "/blink" "&lt;blink&gt;" (by decide) (by decide)]
  lead_lacks := lacks_opening_empty
  classes_lacks := by decide

/-- The class `standard-table` is not needed. -/
theorem tagNames_of_hyphenated_class :
    let page : Listing := ⟨[hyphenatedTable], "", by decide⟩
    page.text = "<table class=\"non-standard-table\"><tr><td><a href=\"/blink\"><code>&lt;blink&gt;"
        ++ "</code></a></td></tr></table>" ∧
      tagNames page.text = ["blink"] ∧ standardTableWord ∉ hyphenatedTable.classNames := by
  intro page
  have htext : page.text = "<table class=\"non-standard-table\"><tr><td><a href=\"/blink\"><code>"
      ++ "&lt;blink&gt;</code></a></td></tr></table>" := by decide +kernel
  refine ⟨htext, ?_, by decide⟩
  rw [htext]
  decide +kernel

end ErrorScaffold.Page
