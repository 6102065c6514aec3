/-
The elements of a text, by a cursor that goes from left to right.

From a cursor on, the next element starts where its opening tag first stands; the tag ends at the
first `>` behind the name, and the body at the first closing tag behind that.  Where the tag or the
body does not end there is no element, and then there is none further on either.

* `exists_isNext_of_le` — an element further on means an element from here on;
* `search?_elementPattern` — so the pattern of an element, which would try every later place as
  well, matches at the first opening tag or nowhere;
* `elements_successive` — the bodies that are found are those of the cursor, and those that the
  pattern captures.
-/
import ErrorScaffold.Page.TagName
import ErrorScaffold.Proofs.Page.Scanning
import ErrorScaffold.Proofs.Text.Pattern
import ErrorScaffold.Proofs.Text.Position

namespace ErrorScaffold.Page

open Text

/-! ### The cursor -/

/-- The name stands at the position with `<` before it, and no word character follows. -/
def OpensAt (name text : List Char) (i : Nat) : Prop :=
  StandsAt ('<' :: name) text i ∧ ∀ c ∈ text[i + (name.length + 1)]?, isWordChar c = false

/-- An element in a text, by positions. -/
structure Span where
  /-- The `<` of the opening tag. -/
  start : Nat
  /-- The `>` of the opening tag. -/
  tagEnd : Nat
  /-- The `<` of the closing tag. -/
  bodyEnd : Nat
  deriving DecidableEq

/-- What is between the two tags. -/
def Span.body (text : List Char) (span : Span) : List Char :=
  text.extract (span.tagEnd + 1) span.bodyEnd

/-- The position behind the closing tag. -/
def Span.stop (name : List Char) (span : Span) : Nat :=
  span.bodyEnd + (closing name).length

/-- The next element from the cursor on: each part is the first one behind the part before. -/
structure IsNext (name text : List Char) (cursor : Nat) (span : Span) : Prop where
  start : IsFirst (OpensAt name text) cursor span.start
  tagEnd : IsFirst (StandsAt ['>'] text) (span.start + (name.length + 1)) span.tagEnd
  bodyEnd : IsFirst (StandsAt (closing name) text) (span.tagEnd + 1) span.bodyEnd

/-- The elements from the cursor on: the cursor goes behind each, and stops where there is none. -/
inductive Scans (name text : List Char) : (cursor : Nat) → List Span → Prop
  | stop {cursor : Nat} (none : ∀ span, ¬IsNext name text cursor span) : Scans name text cursor []
  | next {cursor : Nat} {span : Span} {spans : List Span} (first : IsNext name text cursor span)
      (tail : Scans name text (span.stop name) spans) : Scans name text cursor (span :: spans)

section

variable {name text : List Char} {cursor cursor' : Nat} {span span' : Span}
  {spans spans' : List Span}

theorem IsNext.unique (h : IsNext name text cursor span) (h' : IsNext name text cursor span') :
    span = span' := by
  obtain ⟨start, tagEnd, bodyEnd⟩ := span
  obtain ⟨start', tagEnd', bodyEnd'⟩ := span'
  obtain rfl : start = start' := h.start.unique h'.start
  obtain rfl : tagEnd = tagEnd' := h.tagEnd.unique h'.tagEnd
  obtain rfl : bodyEnd = bodyEnd' := h.bodyEnd.unique h'.bodyEnd
  rfl

/-- An element further on means an element from here on: what the earlier opening tag lacks, every
later one would lack as well. -/
theorem exists_isNext_of_le (hle : cursor ≤ cursor') (h : IsNext name text cursor' span) :
    ∃ span', IsNext name text cursor span' := by
  obtain ⟨start, hstart, hisStart⟩ :=
    exists_isFirst (Nat.le_trans hle h.start.le) h.start.holds
  have htagEnd : start + (name.length + 1) ≤ span.tagEnd :=
    Nat.le_trans (Nat.add_le_add_right hstart _) h.tagEnd.le
  obtain ⟨tagEnd, htag, hisTagEnd⟩ := exists_isFirst htagEnd h.tagEnd.holds
  have hbodyEnd : tagEnd + 1 ≤ span.bodyEnd :=
    Nat.le_trans (Nat.add_le_add_right htag 1) h.bodyEnd.le
  obtain ⟨bodyEnd, -, hisBodyEnd⟩ := exists_isFirst hbodyEnd h.bodyEnd.holds
  exact ⟨⟨start, tagEnd, bodyEnd⟩, hisStart, hisTagEnd, hisBodyEnd⟩

theorem IsNext.tagEnd_lt (h : IsNext name text cursor span) :
    cursor ≤ span.start ∧ span.start < span.tagEnd ∧ span.tagEnd < span.bodyEnd := by
  have := h.start.le
  have := h.tagEnd.le
  have := h.bodyEnd.le
  omega

/-- The body of an element does not hold its closing tag. -/
theorem IsNext.not_infix_body (h : IsNext name text cursor span) :
    ¬closing name <:+: span.body text := by
  intro hinfix
  obtain ⟨position, hle, hlt, hstands⟩ := exists_standsAt_of_infix (by simp [closing]) hinfix
  have hpos : 0 < (closing name).length := by simp [closing]
  exact h.bodyEnd.first position hle (by omega) hstands

theorem Scans.unique (h : Scans name text cursor spans) (h' : Scans name text cursor spans') :
    spans = spans' := by
  induction h generalizing spans' with
  | stop none =>
    cases h' with
    | stop => rfl
    | next first => exact absurd first (none _)
  | next first _ ih =>
    cases h' with
    | stop none => exact absurd first (none _)
    | next first' tail' =>
      obtain rfl := first.unique first'
      rw [ih tail']

/-- Each element comes behind the one before. -/
theorem Scans.pairwise (h : Scans name text cursor spans) :
    (∀ span ∈ spans, cursor ≤ span.start) ∧
      spans.Pairwise fun span span' => span.stop name ≤ span'.start := by
  induction h with
  | stop => exact ⟨nofun, .nil⟩
  | @next cursor span spans first _ ih =>
    obtain ⟨hbehind, hpairwise⟩ := ih
    obtain ⟨hstart, htag, hbody⟩ := first.tagEnd_lt
    refine ⟨List.forall_mem_cons.2 ⟨hstart, fun later hlater => ?_⟩,
      List.pairwise_cons.2 ⟨hbehind, hpairwise⟩⟩
    have hle : span.bodyEnd + (closing name).length ≤ later.start := hbehind later hlater
    omega

theorem Scans.isNext (h : Scans name text cursor spans) :
    ∀ span ∈ spans, ∃ cursor, IsNext name text cursor span := by
  induction h with
  | stop => nofun
  | @next cursor span spans first _ ih => exact List.forall_mem_cons.2 ⟨⟨cursor, first⟩, ih⟩

/-! ### The scan finds what the cursor finds -/

@[simp] theorem opening?_drop_iff {i : Nat} {after : List Char} :
    opening? name (text.drop i) = some after ↔
      OpensAt name text i ∧ after = text.drop (i + (name.length + 1)) := by
  have hhead : (text.drop (i + (name.length + 1))).head? = text[i + (name.length + 1)]? :=
    List.head?_drop
  rw [opening?]
  cases hfollowing : ('<' :: name).isPrefixOf? (text.drop i) with
  -- neither side holds where the name does not stand
  | none =>
    refine iff_of_false (Option.some_ne_none _).symm fun h => ?_
    exact isPrefixOf?_drop_eq_none_iff.1 hfollowing h.1.1
  | some found =>
    obtain ⟨hstands, rfl⟩ := isPrefixOf?_drop_iff.1 hfollowing
    rw [List.length_cons]
    -- the name stands here, so that the character behind it decides
    by_cases hboundary : atWordBoundary (text.drop (i + (name.length + 1))) = true
    · have hopens := atWordBoundary_iff.1 hboundary
      rw [hhead] at hopens
      simp only [if_pos hboundary, Option.some.injEq]
      exact ⟨fun heq => ⟨⟨hstands, hopens⟩, heq.symm⟩, fun h => h.2.symm⟩
    · simp only [if_neg hboundary]
      refine iff_of_false (Option.some_ne_none _).symm fun h => hboundary (atWordBoundary_iff.2 ?_)
      rw [hhead]
      exact h.1.2

@[simp] theorem afterOpening?_drop_iff {after : List Char} :
    afterOpening? name (text.drop cursor) = some after ↔
      ∃ position, IsFirst (OpensAt name text) cursor position ∧
        after = text.drop (position + (name.length + 1)) := by
  induction hrest : text.drop cursor generalizing cursor with
  -- at the end of the text there is no room for a tag
  | nil =>
    rw [afterOpening?]
    refine iff_of_false (Option.some_ne_none _).symm ?_
    rintro ⟨position, hposition, -⟩
    exact not_standsAt_of_drop_eq_nil (List.cons_ne_nil _ _) hrest hposition.le
      hposition.holds.1
  | cons c rest ih =>
    rw [afterOpening?, ← hrest]
    cases hopening : opening? name (text.drop cursor) with
    -- a tag that opens here is the first
    | some found =>
      obtain ⟨hopens, rfl⟩ := opening?_drop_iff.1 hopening
      simp only [isFirst_of_holds hopens, exists_eq_left, Option.some.injEq]
      exact eq_comm
    | none =>
      -- none opens here, so the first from here is the first from the next position
      have hnot : ¬OpensAt name text cursor := fun hopens => by
        rw [opening?_drop_iff.2 ⟨hopens, rfl⟩] at hopening
        cases hopening
      simp only [isFirst_of_not_holds hnot]
      exact ih (drop_succ_of_drop_eq_cons hrest)

@[simp] theorem element?_drop_iff {body after : List Char} :
    element? name (text.drop cursor) = some (body, after) ↔
      ∃ span, IsNext name text cursor span ∧ body = span.body text ∧
        after = text.drop (span.stop name) := by
  simp only [element?, Option.bind_eq_bind, Option.bind_eq_some_iff, Prod.exists,
    afterOpening?_drop_iff]
  constructor
  · rintro ⟨_, ⟨start, hstart, rfl⟩, _, _, htag, hbody⟩
    obtain ⟨tagEnd, htagEnd, -, rfl⟩ := splitAtFirst?_drop_iff.1 htag
    obtain ⟨bodyEnd, hbodyEnd, rfl, rfl⟩ := splitAtFirst?_drop_iff.1 hbody
    exact ⟨⟨start, tagEnd, bodyEnd⟩, ⟨hstart, htagEnd, hbodyEnd⟩, rfl, rfl⟩
  · rintro ⟨⟨start, tagEnd, bodyEnd⟩, ⟨hstart, htagEnd, hbodyEnd⟩, rfl, rfl⟩
    exact ⟨_, ⟨start, hstart, rfl⟩, _, _,
      splitAtFirst?_drop_iff.2 ⟨tagEnd, htagEnd, rfl, rfl⟩,
      splitAtFirst?_drop_iff.2 ⟨bodyEnd, hbodyEnd, rfl, rfl⟩⟩

/-- Where a text has no element, none is behind its first character either. -/
theorem element?_eq_none_of_cons {c : Char} {rest : List Char}
    (h : element? name (c :: rest) = none) : element? name rest = none := by
  rw [Option.eq_none_iff_forall_ne_some]
  rintro ⟨body, after⟩ hrest
  have hdrop : element? name ((c :: rest).drop 1) = some (body, after) := hrest
  obtain ⟨span, hspan, -⟩ := element?_drop_iff.1 hdrop
  obtain ⟨span', hspan'⟩ := exists_isNext_of_le (Nat.zero_le 1) hspan
  have hfound := element?_drop_iff.2 ⟨span', hspan', rfl, rfl⟩
  rw [List.drop_zero, h] at hfound
  cases hfound

/-- The cursor comes to an end on every text, and the bodies on its way are those of the scan. -/
theorem exists_scans (cursor : Nat) :
    ∃ spans, Scans name text cursor spans ∧
      spans.map (Span.body text) = elements name (text.drop cursor) := by
  -- an element takes up characters, so the text behind the cursor gets shorter
  induction hlength : (text.drop cursor).length using Nat.strongRecOn generalizing cursor with
  | ind length ih =>
    subst hlength
    rw [elements_eq]
    cases helement : element? name (text.drop cursor) with
    | none =>
      refine ⟨[], .stop fun span hspan => ?_, rfl⟩
      rw [element?_drop_iff.2 ⟨span, hspan, rfl, rfl⟩] at helement
      cases helement
    | some found =>
      obtain ⟨body, after⟩ := found
      have hlt := length_lt_of_element? helement
      obtain ⟨span, hspan, rfl, rfl⟩ := element?_drop_iff.1 helement
      obtain ⟨spans, hscans, hbodies⟩ := ih _ hlt (span.stop name) rfl
      exact ⟨span :: spans, .next hspan hscans, by rw [List.map_cons, hbodies]⟩

end

/-! ### The pattern of an element -/

/-- `<name\b[^>]*>(.*?)</name>`, where the dot stands for the end of a line as well. -/
def elementPattern (name : List Char) : Pattern :=
  [.literal ('<' :: name), .boundary, .run fun c => c != '>', .literal ['>'], .group fun _ => true,
    .literal (closing name)]

/-- The name ends in a word character, so that a word boundary behind it is the end of a word. -/
def EndsInWord (name : List Char) : Prop :=
  ∃ c ∈ name.getLast?, isWordChar c = true

section

variable {name : List Char} (hname : EndsInWord name)
include hname

/-- At one place the pattern matches as the scan reads an element there. -/
theorem first?_elementPattern (before : Option Char) (text : List Char) :
    ((elementPattern name).first? ⟨before, text⟩).map
        (fun (captured, last) => (captured, last.rest))
      = (opening? name text).bind fun attributes =>
          (splitAtFirst? ['>'] attributes).bind fun (_, content) =>
            splitAtFirst? (closing name) content := by
  obtain ⟨c, hc, hword⟩ := hname
  -- the pattern and the scan ask the same in the same order: name, boundary, end of tag
  have hlast : ('<' :: name).getLast? = some c := by
    rw [List.getLast?_cons, Option.mem_def.1 hc, Option.getD_some]
  rw [elementPattern, Pattern.first?_literal_cons, hlast, Option.some_or, opening?]
  cases ('<' :: name).isPrefixOf? text with
  | none => rfl
  | some after =>
    -- a word character is before the boundary, so that none may come behind it
    have hboundary : (isWord (some c) != isWord after.head?) = atWordBoundary after := by
      rw [atWordBoundary, isWord, hword]
      cases after.head? <;> simp [isWord]
    rw [Option.bind_some, Pattern.first?_boundary_cons, hboundary]
    dsimp only
    cases atWordBoundary after with
    | false => rfl
    | true =>
      rw [if_pos rfl, if_pos rfl, Pattern.first?_run_literal, Option.bind_some]
      cases splitAtFirst? ['>'] after with
      | none => rfl
      | some split => exact Pattern.first?_group_literal (closing name)

/-- The leftmost match is the element that the scan finds: it does not have to look further than
the first opening tag. -/
theorem search?_elementPattern (before : Option Char) (text : List Char) :
    ((elementPattern name).search? before text).map (fun (captured, last) => (captured, last.rest))
      = element? name text := by
  induction text generalizing before with
  | nil =>
    rw [Pattern.search?, first?_elementPattern hname]
    rfl
  | cons c rest ih =>
    have hhere := first?_elementPattern hname before (c :: rest)
    rw [Pattern.search?]
    cases hopening : opening? name (c :: rest) with
    | none =>
      -- no tag opens here, and neither of the two stops
      rw [hopening, Option.bind_none, Option.map_eq_none_iff] at hhere
      rw [hhere, Option.none_or, ih, element?, element?, afterOpening?, hopening]
    | some attributes =>
      have helement : element? name (c :: rest)
          = (splitAtFirst? ['>'] attributes).bind fun (_, content) =>
              splitAtFirst? (closing name) content := by
        rw [element?, afterOpening?, hopening]
        rfl
      rw [hopening, Option.bind_some, ← helement] at hhere
      cases hfirst : (elementPattern name).first? ⟨before, c :: rest⟩ with
      | some found =>
        rw [hfirst] at hhere
        exact hhere
      | none =>
        -- the other places are tried in vain
        rw [hfirst, Option.map_none] at hhere
        rw [Option.none_or, ih, ← hhere]
        exact element?_eq_none_of_cons hhere.symm

/-- The pattern captures the bodies of the elements. -/
theorem captures_elementPattern (before : Option Char) (text : List Char) :
    (elementPattern name).captures before text = elements name text := by
  induction hlength : text.length using Nat.strongRecOn generalizing before text with
  | ind length ih =>
    subst hlength
    have hsearch := search?_elementPattern hname before text
    rw [Pattern.captures, elements_eq, ← hsearch]
    cases hfound : (elementPattern name).search? before text with
    | none => rfl
    | some found =>
      obtain ⟨body, place⟩ := found
      rw [hfound] at hsearch
      have hlt := length_lt_of_element? hsearch.symm
      dsimp only [Option.map_some]
      rw [if_pos hlt, ih _ hlt place.before place.rest rfl]

end

/-- The names in a page are those that the two patterns capture, one in what the other does. -/
theorem tagNameChars_eq (page : List Char) :
    tagNameChars page
      = (standardTables page).flatMap fun table =>
          ((elementPattern "a".toList).captures none table).flatMap fun link =>
            ((elementPattern "code".toList).captures none link).flatMap namesInCode := by
  have ha : EndsInWord "a".toList := ⟨'a', rfl, by decide +kernel⟩
  have hcode : EndsInWord "code".toList := ⟨'e', rfl, by decide +kernel⟩
  simp only [captures_elementPattern ha, captures_elementPattern hcode]
  rfl

/-- **The patterns find the successive elements.**  The cursor comes to an end on every text and
goes one way only.  The bodies on its way are those that the scan finds and those that the pattern
of an element captures, match after match; they come one behind the other, and none holds its
closing tag.  The names in a page are taken from what the patterns of a link and of a code element
capture. -/
theorem elements_successive :
    (∀ name : List Char, EndsInWord name → ∀ text : List Char, ∃ spans,
      (Scans name text 0 spans ∧ ∀ spans', Scans name text 0 spans' → spans' = spans) ∧
      (elementPattern name).captures none text = spans.map (Span.body text) ∧
      elements name text = spans.map (Span.body text) ∧
      (spans.Pairwise fun span span' => span.stop name ≤ span'.start) ∧
      ∀ span ∈ spans, span.start < span.tagEnd ∧ span.tagEnd < span.bodyEnd ∧
        ¬closing name <:+: span.body text) ∧
    ∀ page : List Char, tagNameChars page
      = (standardTables page).flatMap fun table =>
          ((elementPattern "a".toList).captures none table).flatMap fun link =>
            ((elementPattern "code".toList).captures none link).flatMap namesInCode := by
  refine ⟨fun name hname text => ?_, tagNameChars_eq⟩
  obtain ⟨spans, hscans, hbodies⟩ := @exists_scans name text 0
  rw [List.drop_zero] at hbodies
  refine ⟨spans, ⟨hscans, fun _ h => h.unique hscans⟩,
    (captures_elementPattern hname none text).trans hbodies.symm, hbodies.symm, hscans.pairwise.2,
    fun span hspan => ?_⟩
  obtain ⟨_, hnext⟩ := hscans.isNext span hspan
  exact ⟨hnext.tagEnd_lt.2.1, hnext.tagEnd_lt.2.2, hnext.not_infix_body⟩

/-- An opening tag in an opening tag counts for nothing, a longer name opens no element, and the
last one is not closed. -/
theorem elements_of_unclosed_tag :
    let text := "<code a<code>x</code><codex>y</code><code>z".toList
    EndsInWord "code".toList ∧
      (elementPattern "code".toList).captures none text = ["x".toList] ∧
      ∃ spans, Scans "code".toList text 0 spans ∧ spans.map (Span.body text) = ["x".toList] := by
  intro text
  have hname : EndsInWord "code".toList := ⟨'e', rfl, by decide +kernel⟩
  have helements : elements "code".toList text = ["x".toList] := by decide +kernel
  obtain ⟨spans, ⟨hscans, -⟩, hcaptures, hbodies, -⟩ :=
    elements_successive.1 "code".toList hname text
  rw [helements] at hbodies
  exact ⟨hname, hcaptures.trans hbodies.symm, spans, hscans, hbodies.symm⟩

end ErrorScaffold.Page
