/-
The array in a header of tag names, read back.

A compiler reads the array as string literals with a comma after each.  Names are written between
the quotation marks as they are, so that a name can end its literal too soon, escape what follows
it or break the line.

* `exists_spelling_of_literal?` — a literal is spelled by at least as many characters as its value
  has, `literal?_self_iff` — and by the value itself only if nothing in it has a meaning there;
* `array?_tagLine_iff` — so the line of a tag reads as the tag only if nothing in it has;
* `initializer_of_page` — the header of a page reads as its tags if and only if nothing in the names
  of the page has a meaning in a literal;
* `initializer_of_careless_names` — in other names it may have.
-/
import ErrorScaffold.Proofs.Page.Extraction
import ErrorScaffold.TagFile

namespace ErrorScaffold

open Text

/-! ### Literals -/

namespace Literal

/-- What escapes stand for: of a text that comes after a backslash, a character, and the number of
characters that the escape takes besides the first. -/
abbrev Escapes := List Char → Option (Char × Nat)

/-- What cannot stand for itself in a literal. -/
def breaks : List Char := ['\x22', '\\', '\n']

/-- The value of a literal and the text after it, read from behind the opening quotation mark;
`skipped` characters belong to an escape that has been read already.  No line ends in a literal. -/
def literal? (escapes : Escapes) : (skipped : Nat) → List Char → Option (List Char × List Char)
  | _, [] => none
  | skipped + 1, c :: rest => if c = '\n' then none else literal? escapes skipped rest
  | 0, c :: rest =>
    if c = '\x22' then some ([], rest)
    else if c = '\n' then none
    else if c = '\\' then
      (escapes rest).bind fun (d, more) =>
        (literal? escapes (more + 1) rest).map fun (value, after) => (d :: value, after)
    else (literal? escapes 0 rest).map fun (value, after) => (c :: value, after)

/-- The value of the literal at the start of a text, and the text after the comma behind it. -/
def item? (escapes : Escapes) (text : List Char) : Option (List Char × List Char) := do
  let spelled ← ['\x22'].isPrefixOf? (text.dropWhile Char.isWhitespace)
  let (value, after) ← literal? escapes 0 spelled
  let others ← [','].isPrefixOf? (after.dropWhile Char.isWhitespace)
  return (value, others)

/-- What the escapes of one letter stand for. -/
def simpleEscapes : Escapes
  | 'a' :: _ => some ('\x07', 0)
  | 'b' :: _ => some ('\x08', 0)
  | 't' :: _ => some ('\t', 0)
  | 'n' :: _ => some ('\n', 0)
  | 'v' :: _ => some ('\x0b', 0)
  | 'f' :: _ => some ('\x0c', 0)
  | 'r' :: _ => some ('\r', 0)
  | '?' :: _ => some ('?', 0)
  | '\x22' :: _ => some ('\x22', 0)
  | '\x27' :: _ => some ('\x27', 0)
  | '\\' :: _ => some ('\\', 0)
  | _ => none

variable {escapes : Escapes}

/-- A literal is spelled on one line, by no fewer characters than its value has. -/
theorem exists_spelling_of_literal? {text value after : List Char} {skipped : Nat}
    (h : literal? escapes skipped text = some (value, after)) :
    ∃ spelling, text = spelling ++ '\x22' :: after ∧ '\n' ∉ spelling ∧
      value.length + skipped ≤ spelling.length := by
  induction text generalizing skipped value with
  | nil => cases skipped <;> cases h
  | cons c rest ih =>
    -- whatever `c` is, the literal goes on behind it, unless `c` ends it
    have hstep : c ≠ '\n' → ∀ {tail : List Char} {k : Nat},
        literal? escapes k rest = some (tail, after) →
        value.length + skipped ≤ tail.length + k + 1 →
        ∃ spelling, c :: rest = spelling ++ '\x22' :: after ∧ '\n' ∉ spelling ∧
          value.length + skipped ≤ spelling.length := by
      intro hc tail k htail hle
      obtain ⟨spelling, rfl, hline, hlength⟩ := ih htail
      refine ⟨c :: spelling, rfl, ?_, ?_⟩
      · rw [List.mem_cons, not_or]
        exact ⟨Ne.symm hc, hline⟩
      · rw [List.length_cons]
        omega
    cases skipped with
    | succ skipped =>
      rw [literal?] at h
      split at h
      · cases h
      · next hc => exact hstep hc h (by omega)
    | zero =>
      rw [literal?] at h
      split at h
      · next hc =>
        obtain ⟨rfl, rfl⟩ := Prod.mk.inj (Option.some.inj h)
        exact ⟨[], by rw [hc]; rfl, List.not_mem_nil, Nat.le_refl _⟩
      · split at h
        · cases h
        · next hc =>
          split at h
          · -- an escape, which takes two characters at least
            simp only [Option.bind_eq_some_iff, Option.map_eq_some_iff, Prod.exists] at h
            obtain ⟨d, more, -, tail, _, htail, heq⟩ := h
            obtain ⟨rfl, rfl⟩ := Prod.mk.inj heq
            exact hstep hc htail (by simp only [List.length_cons]; omega)
          · simp only [Option.map_eq_some_iff, Prod.exists] at h
            obtain ⟨tail, _, htail, heq⟩ := h
            obtain ⟨rfl, rfl⟩ := Prod.mk.inj heq
            exact hstep hc htail (by simp only [List.length_cons]; omega)

/-- A text that nothing breaks is its own value, and no other is. -/
@[simp] theorem literal?_self_iff {value after : List Char} :
    literal? escapes 0 (value ++ '\x22' :: after) = some (value, after) ↔
      ∀ c ∈ breaks, c ∉ value := by
  induction value with
  | nil => exact iff_of_true rfl fun _ _ => List.not_mem_nil
  | cons c value ih =>
    by_cases hc : c ∈ breaks
    · refine iff_of_false ?_ fun hall => hall c hc List.mem_cons_self
      intro h
      simp only [breaks, List.mem_cons, List.not_mem_nil, or_false] at hc
      -- a quotation mark ends the literal too early, and the end of a line breaks it off
      rcases hc with rfl | rfl | rfl
      · cases h
      · -- an escape leaves too few characters for the rest of the value
        rw [List.cons_append, literal?, if_neg (by decide), if_neg (by decide), if_pos rfl] at h
        simp only [Option.bind_eq_some_iff, Option.map_eq_some_iff, Prod.exists] at h
        obtain ⟨d, more, -, tail, _, htail, heq⟩ := h
        obtain ⟨htail_eq, rfl⟩ := Prod.mk.inj heq
        obtain ⟨-, rfl⟩ := List.cons.inj htail_eq
        obtain ⟨spelling, htext, -, hlength⟩ := exists_spelling_of_literal? htail
        rw [List.append_cancel_right htext] at hlength
        omega
      · cases h
    · -- the character stands for itself, so that the rest of the value decides
      have hne : ∀ b ∈ breaks, c ≠ b := fun b hb heq => hc (heq ▸ hb)
      have hcons : (∀ b ∈ breaks, b ∉ c :: value) ↔ ∀ b ∈ breaks, b ∉ value := by
        refine forall₂_congr fun b hb => ?_
        rw [List.mem_cons, not_or, and_iff_right (Ne.symm (hne b hb))]
      rw [List.cons_append, literal?, if_neg (hne _ (by decide)), if_neg (hne _ (by decide)),
        if_neg (hne _ (by decide)), hcons, ← ih]
      simp

/-- If the literal on a line has the value that was written there, the value was written as it is
and nothing of it was taken for something else. -/
theorem literal?_written {value rest after : List Char}
    (h : literal? escapes 0 (value ++ '\x22' :: ',' :: '\n' :: rest) = some (value, after)) :
    (∀ c ∈ breaks, c ∉ value) ∧ after = ',' :: '\n' :: rest := by
  obtain ⟨spelling, htext, hline, hlength⟩ := exists_spelling_of_literal? h
  obtain ⟨more, rfl⟩ : value <+: spelling :=
    List.prefix_of_prefix_length_le ⟨_, rfl⟩ ⟨_, htext.symm⟩ hlength
  rw [List.append_assoc] at htext
  have hmore := List.append_cancel_left htext
  -- the literal could only go on over the comma, but it does not go on over the end of the line
  rcases more with _ | ⟨a, _ | ⟨b, _ | ⟨d, more⟩⟩⟩
  · obtain rfl := (List.cons.inj hmore).2
    exact ⟨literal?_self_iff.1 h, rfl⟩
  · cases hmore
  · cases hmore
  · cases hmore
    simp at hline

/-! ### Arrays -/

theorem item?_eq_some_iff {text value others : List Char} :
    item? escapes text = some (value, others) ↔
      ∃ spelled after, text.dropWhile Char.isWhitespace = '\x22' :: spelled ∧
        literal? escapes 0 spelled = some (value, after) ∧
        after.dropWhile Char.isWhitespace = ',' :: others := by
  simp only [item?, Option.bind_eq_bind, Option.bind_eq_some_iff, Prod.exists,
    List.isPrefixOf?_eq_some_iff_append_eq, List.singleton_append]
  constructor
  · rintro ⟨spelled, hspelled, _, after, hliteral, _, hothers, heq⟩
    obtain ⟨rfl, rfl⟩ := Prod.mk.inj (Option.some.inj heq)
    exact ⟨spelled, after, hspelled.symm, hliteral, hothers.symm⟩
  · rintro ⟨spelled, after, hspelled, hliteral, hothers⟩
    exact ⟨spelled, hspelled.symm, value, after, hliteral, others, hothers.symm, rfl⟩

theorem length_lt_of_item? {text value others : List Char}
    (h : item? escapes text = some (value, others)) : others.length < text.length := by
  obtain ⟨spelled, after, hspelled, hliteral, hothers⟩ := item?_eq_some_iff.1 h
  obtain ⟨spelling, rfl, -⟩ := exists_spelling_of_literal? hliteral
  have htext := (List.dropWhile_suffix (l := text) Char.isWhitespace).length_le
  have hafter := (List.dropWhile_suffix (l := after) Char.isWhitespace).length_le
  simp only [hspelled, hothers, List.length_append, List.length_cons] at htext hafter
  omega

/-- The values of an array of literals, read from behind the opening brace: each has a comma after
it, and after the last comes the closing brace. -/
def array? (escapes : Escapes) (text : List Char) : Option (List (List Char)) :=
  match h : item? escapes text with
  | some (value, others) =>
    have : others.length < text.length := length_lt_of_item? h
    (array? escapes others).map (value :: ·)
  | none => if (text.dropWhile Char.isWhitespace).head? = some '\x7d' then some [] else none
termination_by text.length

theorem array?_eq (text : List Char) :
    array? escapes text
      = match item? escapes text with
        | some (value, others) => (array? escapes others).map (value :: ·)
        | none =>
          if (text.dropWhile Char.isWhitespace).head? = some '\x7d' then some [] else none := by
  rw [array?]
  split
  · next h => simp only [h]
  · next h => simp only [h]

theorem array?_eq_cons_iff {text value : List Char} {values : List (List Char)} :
    array? escapes text = some (value :: values) ↔
      ∃ others, item? escapes text = some (value, others) ∧
        array? escapes others = some values := by
  rw [array?_eq]
  cases hitem : item? escapes text with
  -- without an item the array is empty or breaks off
  | none =>
    refine iff_of_false ?_ fun ⟨_, h, _⟩ => nomatch h
    dsimp only
    split <;> simp
  | some found =>
    obtain ⟨first, others⟩ := found
    simp only [Option.map_eq_some_iff, List.cons.injEq, Option.some.injEq, Prod.mk.injEq]
    constructor
    · rintro ⟨_, hothers, rfl, rfl⟩
      exact ⟨others, ⟨rfl, rfl⟩, hothers⟩
    · rintro ⟨_, ⟨rfl, rfl⟩, hothers⟩
      exact ⟨values, hothers, rfl, rfl⟩

@[simp] theorem array?_newline (text : List Char) :
    array? escapes ('\n' :: text) = array? escapes text := by
  have hdrop : ('\n' :: text).dropWhile Char.isWhitespace = text.dropWhile Char.isWhitespace :=
    List.dropWhile_cons_of_pos rfl
  have hitem : item? escapes ('\n' :: text) = item? escapes text := by rw [item?, hdrop, item?]
  rw [array?_eq, hdrop, hitem, ← array?_eq]

@[simp] theorem array?_close (rest : List Char) : array? escapes ('\x7d' :: rest) = some [] := by
  rw [array?_eq]
  rfl

end Literal

namespace TagFile

open Literal

variable {escapes : Escapes}

theorem toList_tagLine_append (tag : String) (rest : List Char) :
    (tagLine tag).toList ++ rest
      = ' ' :: ' ' :: '\x22' :: (tag.toList ++ '\x22' :: ',' :: '\n' :: rest) := by
  simp [tagLine]

/-- The line of a tag reads as the tag exactly if nothing in the tag has a meaning in a literal. -/
@[simp] theorem array?_tagLine_iff {tag : String} {rest : List Char} {values : List (List Char)} :
    array? escapes ((tagLine tag).toList ++ rest) = some (tag.toList :: values) ↔
      Page.Lacks breaks tag ∧ array? escapes rest = some values := by
  have hblank : ∀ text : List Char,
      (' ' :: ' ' :: '\x22' :: text).dropWhile Char.isWhitespace = '\x22' :: text := fun text => by
    rw [List.dropWhile_cons_of_pos rfl, List.dropWhile_cons_of_pos rfl,
      List.dropWhile_cons_of_neg (by decide)]
  have hcomma : ∀ text : List Char,
      (',' :: text).dropWhile Char.isWhitespace = ',' :: text := fun _ =>
    List.dropWhile_cons_of_neg (by decide)
  rw [array?_eq_cons_iff, toList_tagLine_append]
  simp only [item?_eq_some_iff, hblank]
  constructor
  · -- the literal has the value of the tag, so nothing in it had another meaning
    rintro ⟨others, ⟨spelled, after, hspelled, hliteral, hothers⟩, hvalues⟩
    obtain rfl := (List.cons.inj hspelled).2
    obtain ⟨hplain, rfl⟩ := literal?_written hliteral
    obtain rfl := (List.cons.inj ((hcomma _).symm.trans hothers)).2
    exact ⟨hplain, array?_newline rest ▸ hvalues⟩
  · rintro ⟨hplain, hvalues⟩
    exact ⟨'\n' :: rest, ⟨_, _, rfl, literal?_self_iff.2 hplain, hcomma _⟩,
      (array?_newline rest).trans hvalues⟩

/-- All lines of a header read as its tags exactly if each does. -/
@[simp] theorem array?_tagLines_iff (tags : List String) (rest : List Char) :
    array? escapes ((String.join (tags.map tagLine)).toList ++ '\x7d' :: rest)
        = some (tags.map String.toList) ↔
      ∀ tag ∈ tags, Page.Lacks breaks tag := by
  induction tags with
  | nil => exact iff_of_true (array?_close rest) fun _ h => nomatch h
  | cons tag tags ih =>
    rw [Page.toList_join_cons, List.append_assoc, List.map_cons, array?_tagLine_iff, ih,
      List.forall_mem_cons]

/-! ### Headers -/

/-- The strings in the array of a header. -/
def readTags? (escapes : Escapes) (header : String) : Option (List String) := do
  let (_, initializer) ← splitAtFirst? ['\x7b'] header.toList
  let values ← array? escapes initializer
  return values.map String.ofList

/-- What comes in a header before the lines of its tags. -/
def opening : String :=
  "#ifndef SEE_PHIT_TAGS_HPP\n#define SEE_PHIT_TAGS_HPP\n\nconstexpr const char *tags[] = "

/-- The array of a header starts with the lines of its tags. -/
theorem splitAtFirst?_render (f : TagFile) :
    splitAtFirst? ['\x7b'] f.render.toList
      = some (opening.toList,
        '\n' :: ((String.join (f.tags.map tagLine)).toList
          ++ '\x7d' :: ";\n\n#endif\n".toList)) := by
  have hrender : f.render.toList
      = opening.toList ++ ['\x7b'] ++ '\n' ::
        ((String.join (f.tags.map tagLine)).toList ++ '\x7d' :: ";\n\n#endif\n".toList) := by
    unfold render opening
    simp only [String.toList_append, String.reduceToList, List.cons_append, List.nil_append]
  rw [hrender]
  exact splitAtFirst?_needle (avoids_of_not_mem (by decide)) _

/-- A header reads as its tags exactly if nothing in a tag has a meaning in a literal. -/
theorem readTags?_render_iff {f : TagFile} :
    readTags? escapes f.render = some f.tags ↔ ∀ tag ∈ f.tags, Page.Lacks breaks tag := by
  have hinjective : Function.Injective (List.map String.ofList) :=
    List.map_injective_iff.2 fun _ _ => String.ofList_inj.1
  have hstrings : f.tags = (f.tags.map String.toList).map String.ofList := by
    simp [Function.comp_def]
  -- the array starts behind the first brace of the header
  have hread : readTags? escapes f.render
      = (array? escapes ((String.join (f.tags.map tagLine)).toList
          ++ '\x7d' :: ";\n\n#endif\n".toList)).map (List.map String.ofList) := by
    rw [readTags?, splitAtFirst?_render]
    simp only [Option.bind_eq_bind, Option.bind_some, array?_newline]
    rw [Option.map_eq_bind]
    rfl
  have hsome := @array?_tagLines_iff escapes f.tags ";\n\n#endif\n".toList
  rw [← hsome, hread]
  nth_rewrite 2 [hstrings]
  exact (Option.map_injective hinjective).eq_iff' rfl

/-! ### Tag files of names -/

@[simp] theorem mem_insert {name tag : String} {tags : List String} :
    tag ∈ insert name tags ↔ tag = name ∨ tag ∈ tags := by
  induction tags with
  | nil => rw [insert, List.mem_singleton, or_iff_left List.not_mem_nil]
  | cons first tags ih =>
    rw [insert]
    split
    · rw [List.mem_cons]
    · split
      · next heq =>
        subst heq
        rw [List.mem_cons, or_self_left]
      · rw [List.mem_cons, ih, List.mem_cons, or_left_comm]

@[simp] theorem mem_ofNames {names : List String} {tag : String} :
    tag ∈ (ofNames names).tags ↔ (tag ∈ names ∧ isTag tag = true) ∨ tag ∈ headings := by
  have hfoldr : ∀ all : List String, tag ∈ all.foldr insert [] ↔ tag ∈ all := fun all => by
    induction all with
    | nil => rfl
    | cons name all ih => rw [List.foldr_cons, mem_insert, ih, List.mem_cons]
  rw [ofNames, hfoldr, List.mem_append, List.mem_filter]

/-- What is left out of a tag file and what is put into it can stand in a literal. -/
theorem forall_mem_ofNames_iff {names : List String} :
    (∀ tag ∈ (ofNames names).tags, Page.Lacks breaks tag) ↔
      ∀ name ∈ names, Page.Lacks breaks name := by
  constructor
  · intro h name hname
    by_cases htag : isTag name = true
    · exact h name (mem_ofNames.2 (.inl ⟨hname, htag⟩))
    · -- the names that are left out are two, and neither has such a character
      have hleft : name = "" ∨ name = headingRange := by
        rw [isTag, Bool.and_eq_true, not_and_or, Bool.not_eq_true, Bool.not_eq_false',
          String.isEmpty_iff, bne_iff_ne, not_not] at htag
        exact htag
      rcases hleft with rfl | rfl
      · decide
      · decide
  · intro h tag htag
    rcases mem_ofNames.1 htag with ⟨hname, -⟩ | hheading
    · exact h tag hname
    · exact (by decide +kernel : ∀ heading ∈ headings, Page.Lacks breaks heading) tag hheading

/-- **The array of a header holds the tags.**  Read as an array of string literals, whatever escapes
stand for, the header of a page is the array of its tags if and only if no name in the page has a
quotation mark, a backslash or the end of a line in it.  Pages without such names have the same
header only if they have the same tags. -/
theorem initializer_of_page (escapes : Escapes) (page : String) :
    (readTags? escapes (ofNames (Page.tagNames page)).render
        = some (ofNames (Page.tagNames page)).tags ↔
      ∀ name ∈ Page.tagNames page, Page.Lacks breaks name) ∧
    ∀ other : String, (∀ name ∈ Page.tagNames page, Page.Lacks breaks name) →
      (∀ name ∈ Page.tagNames other, Page.Lacks breaks name) →
      (ofNames (Page.tagNames page)).render = (ofNames (Page.tagNames other)).render →
      ofNames (Page.tagNames page) = ofNames (Page.tagNames other) := by
  have hreads : ∀ page : String,
      readTags? escapes (ofNames (Page.tagNames page)).render
          = some (ofNames (Page.tagNames page)).tags ↔
        ∀ name ∈ Page.tagNames page, Page.Lacks breaks name := fun page =>
    readTags?_render_iff.trans forall_mem_ofNames_iff
  refine ⟨hreads page, fun other hpage hother hrender => ?_⟩
  have htags := (hreads page).2 hpage
  rw [hrender, (hreads other).2 hother] at htags
  exact congrArg TagFile.mk (Option.some.inj htags).symm

/-- A page with one cell of the reference, in markup. -/
def cellPage (markup : String) : String :=
  "<table class=\"standard-table\"><tr><td><a href=\"/a\"><code>" ++ markup
    ++ "</code></a></td></tr></table>"

theorem tagNames_cellPage : Page.tagNames (cellPage "&lt;a&gt;&lt;b&gt;") = ["a", "b"] := by
  decide +kernel

theorem initializer_of_plain_names :
    readTags? simpleEscapes (ofNames (Page.tagNames (cellPage "&lt;b&gt;&lt;a&gt;"))).render
        = some (["a", "b"] ++ headings) ∧
      ofNames (Page.tagNames (cellPage "&lt;b&gt;&lt;a&gt;"))
        = ofNames (Page.tagNames (cellPage "&lt;a&gt;&lt;b&gt;")) := by
  have hnames : Page.tagNames (cellPage "&lt;b&gt;&lt;a&gt;") = ["b", "a"] := by decide +kernel
  have htags : (ofNames ["b", "a"]).tags = ["a", "b"] ++ headings := by decide +kernel
  have hrender : (ofNames ["b", "a"]).render = (ofNames ["a", "b"]).render := by decide +kernel
  obtain ⟨hread, hequal⟩ := initializer_of_page simpleEscapes (cellPage "&lt;b&gt;&lt;a&gt;")
  have hequal := hequal (cellPage "&lt;a&gt;&lt;b&gt;")
  rw [hnames] at hread hequal ⊢
  rw [tagNames_cellPage] at hequal ⊢
  exact ⟨htags ▸ hread.2 (by decide), hequal (by decide) (by decide) hrender⟩

/-- A name that ends its literal and starts another is written as two tags would be. -/
theorem initializer_of_careless_names :
    Page.tagNames (cellPage "&lt;a\",\n  \"b&gt;") = ["a\",\n  \"b"] ∧
      readTags? simpleEscapes (ofNames (Page.tagNames (cellPage "&lt;a\",\n  \"b&gt;"))).render
        = some (["a", "b"] ++ headings) ∧
      (ofNames (Page.tagNames (cellPage "&lt;a\",\n  \"b&gt;"))).render
        = (ofNames (Page.tagNames (cellPage "&lt;a&gt;&lt;b&gt;"))).render ∧
      ofNames (Page.tagNames (cellPage "&lt;a\",\n  \"b&gt;"))
        ≠ ofNames (Page.tagNames (cellPage "&lt;a&gt;&lt;b&gt;")) := by
  have hnames : Page.tagNames (cellPage "&lt;a\",\n  \"b&gt;") = ["a\",\n  \"b"] := by
    decide +kernel
  have hrender : (ofNames ["a\",\n  \"b"]).render = (ofNames ["a", "b"]).render := by
    decide +kernel
  have htags : (ofNames ["a", "b"]).tags = ["a", "b"] ++ headings := by decide +kernel
  have hread : readTags? simpleEscapes (ofNames ["a", "b"]).render
      = some (ofNames ["a", "b"]).tags :=
    readTags?_render_iff.2 (forall_mem_ofNames_iff.2 (by decide))
  rw [hnames, tagNames_cellPage]
  exact ⟨rfl, hrender ▸ htags ▸ hread, hrender, by decide +kernel⟩

end TagFile

end ErrorScaffold
