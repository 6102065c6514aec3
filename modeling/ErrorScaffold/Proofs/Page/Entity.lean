/-
Escaping for markup, and back.

Markup claims three characters for itself, and a text that holds one of them writes its entity
instead.  `decode` reads a text once, from left to right, and puts the character in the place of
each entity.  The three replacements of `unescape` do the same: each finds the entities of its own
character, and no replacement puts an entity together that the next one would take.

* `isPrefixOf?_replaceAll` — what a replacement cannot bring about;
* `unescape_entity`, `unescape_cons` — an entity at the front, and a character that starts none;
* `unescape_eq_decode` — three replacements are one pass;
* `unescape_escape_append`, `unescape_escape` — an escaped text comes out as it was, whatever is
  behind it;
* `unescape_exact` — all this together.
-/
import ErrorScaffold.Page.Entity
import ErrorScaffold.Proofs.Text.Search

namespace ErrorScaffold.Page

open Text

/-- How a character that markup claims is written. -/
def entity : Char → List Char
  | '<' => "&lt;".toList
  | '>' => "&gt;".toList
  | '&' => "&amp;".toList
  | c => [c]

/-- A text in which the characters of a list are written as entities. -/
def escapeOf (claimed text : List Char) : List Char :=
  text.flatMap fun c => if c ∈ claimed then entity c else [c]

/-- A text as it is written in markup. -/
def escape (text : List Char) : List Char :=
  escapeOf ['<', '>', '&'] text

theorem escapeOf_cons (claimed : List Char) (c : Char) (text : List Char) :
    escapeOf claimed (c :: text)
      = (if c ∈ claimed then entity c else [c]) ++ escapeOf claimed text :=
  List.flatMap_cons

/-- What is claimed does not stand in an escaped text, the ampersand apart. -/
theorem not_mem_escape {c : Char} (hc : c = '<' ∨ c = '>') (text : List Char) :
    c ∉ escape text := by
  induction text with
  | nil => exact List.not_mem_nil
  | cons d text ih =>
    rw [escape, escapeOf_cons, List.mem_append, not_or]
    refine ⟨?_, ih⟩
    by_cases hd : d ∈ ['<', '>', '&']
    · -- one of three entities, none of which holds an angle bracket
      rw [if_pos hd]
      simp only [List.mem_cons, List.not_mem_nil, or_false] at hd
      rcases hc with rfl | rfl <;> rcases hd with rfl | rfl | rfl <;> decide
    · rw [if_neg hd, List.mem_singleton]
      rintro rfl
      exact hd (by rcases hc with rfl | rfl <;> decide)

/-! ### One pass -/

/-- One pass over a text, from left to right: an entity at the front gives its character, and the
pass goes on behind it. -/
def decode : List Char → List Char
  | '&' :: 'l' :: 't' :: ';' :: rest => '<' :: decode rest
  | '&' :: 'g' :: 't' :: ';' :: rest => '>' :: decode rest
  | '&' :: 'a' :: 'm' :: 'p' :: ';' :: rest => '&' :: decode rest
  | c :: rest => c :: decode rest
  | [] => []

theorem decode_cons {c : Char} (h : c ≠ '&') (rest : List Char) :
    decode (c :: rest) = c :: decode rest := by
  rw [decode] <;> exact fun _ hc => absurd hc h

/-! ### Three replacements -/

/-- A text that a replacement puts together was there before, unless it holds the character that
was put in. -/
theorem isPrefixOf?_replaceAll {needle name text : List Char} {d : Char} (hn : needle ≠ [])
    (hd : d ∉ name) (h : name.isPrefixOf? text = none) :
    name.isPrefixOf? (replaceAll needle [d] text) = none := by
  induction name generalizing text with
  | nil => cases h
  | cons n name ih =>
    rw [List.mem_cons, not_or] at hd
    cases text with
    | nil => rw [replaceAll_nil hn, h]
    | cons c text =>
      cases hstarts : needle.isPrefixOf? (c :: text) with
      -- the replacement is at the front, with a character that the name lacks
      | some after =>
        rw [← List.append_eq_of_isPrefixOf?_eq_some hstarts, replaceAll_needle hn]
        exact isPrefixOf?_cons_of_ne (Ne.symm hd.1) _ _
      | none =>
        rw [replaceAll_cons hstarts]
        -- the front stays, so that the first character is compared as before
        by_cases hnc : n = c
        · subst hnc
          rw [isPrefixOf?_cons_self] at h ⊢
          exact ih hd.2 h
        · exact isPrefixOf?_cons_of_ne hnc _ _

/-- An entity gives its character, which starts none of the entities that are replaced later. -/
theorem unescape_entity {d : Char} (hd : d ∈ ['<', '>', '&']) (rest : List Char) :
    unescape (entity d ++ rest) = d :: unescape rest := by
  simp only [List.mem_cons, List.not_mem_nil, or_false] at hd
  -- which of the three replacements takes the entity, and what the others make of the rest
  rcases hd with rfl | rfl | rfl
  · show unescape ("&lt;".toList ++ rest) = _
    rw [unescape, replaceAll_needle (by decide), List.singleton_append, replaceAll_cons rfl,
      replaceAll_cons rfl]
    rfl
  · show unescape ("&gt;".toList ++ rest) = _
    rw [unescape, replaceAll_append (avoids_of_differs (by decide)), replaceAll_needle (by decide),
      List.singleton_append, replaceAll_cons rfl]
    rfl
  · show unescape ("&amp;".toList ++ rest) = _
    rw [unescape, replaceAll_append (avoids_of_differs (by decide)),
      replaceAll_append (avoids_of_differs (by decide)), replaceAll_needle (by decide)]
    rfl

/-- A character at which no entity starts stays: where the entities of the angle brackets are gone
already, none has come up that was not there. -/
theorem unescape_cons {c : Char} {rest : List Char}
    (h : ∀ d ∈ ['<', '>', '&'], (entity d).isPrefixOf? (c :: rest) = none) :
    unescape (c :: rest) = c :: unescape rest := by
  have hless : "&lt;".toList.isPrefixOf? (c :: rest) = none := h '<' (by decide)
  have hgreater : "&gt;".toList.isPrefixOf? (c :: replaceAll "&lt;".toList ['<'] rest) = none := by
    rw [← replaceAll_cons hless]
    exact isPrefixOf?_replaceAll (by decide) (by decide) (h '>' (by decide))
  have hampersand : "&amp;".toList.isPrefixOf?
      (c :: replaceAll "&gt;".toList ['>'] (replaceAll "&lt;".toList ['<'] rest)) = none := by
    rw [← replaceAll_cons hgreater, ← replaceAll_cons hless]
    exact isPrefixOf?_replaceAll (by decide) (by decide)
      (isPrefixOf?_replaceAll (by decide) (by decide) (h '&' (by decide)))
  rw [unescape, replaceAll_cons hless, replaceAll_cons hgreater, replaceAll_cons hampersand]
  rfl

/-- The three replacements are one pass. -/
theorem unescape_eq_decode (text : List Char) : unescape text = decode text := by
  fun_induction decode text with
  | case1 rest ih => exact (unescape_entity (d := '<') (by decide) rest).trans (congrArg _ ih)
  | case2 rest ih => exact (unescape_entity (d := '>') (by decide) rest).trans (congrArg _ ih)
  | case3 rest ih => exact (unescape_entity (d := '&') (by decide) rest).trans (congrArg _ ih)
  | case4 c rest hless hgreater hampersand ih =>
    -- an entity at the front would have been one of the three cases before
    have hplain : ∀ d ∈ ['<', '>', '&'], (entity d).isPrefixOf? (c :: rest) = none := by
      intro d hd
      rw [Option.eq_none_iff_forall_ne_some]
      intro after hafter
      have htext := (List.append_eq_of_isPrefixOf?_eq_some hafter).symm
      simp only [List.mem_cons, List.not_mem_nil, or_false] at hd
      rcases hd with rfl | rfl | rfl <;> obtain ⟨rfl, rfl⟩ := List.cons.inj htext
      · exact hless after rfl rfl
      · exact hgreater after rfl rfl
      · exact hampersand after rfl rfl
    rw [unescape_cons hplain, ih]
  | case5 => decide +kernel

/-! ### Escaped texts -/

/-- What an escaped text stands for comes out whole, whatever is behind it. -/
@[simp] theorem decode_escape_append (text rest : List Char) :
    decode (escape text ++ rest) = text ++ decode rest := by
  induction text with
  | nil => rfl
  | cons c text ih =>
    rw [escape] at ih ⊢
    rw [escapeOf_cons, List.append_assoc]
    by_cases hc : c ∈ ['<', '>', '&']
    · rw [if_pos hc, List.cons_append, ← ih]
      simp only [List.mem_cons, List.not_mem_nil, or_false] at hc
      rcases hc with rfl | rfl | rfl <;> rfl
    · have hamp : c ≠ '&' := by
        rintro rfl
        exact hc (by decide)
      rw [if_neg hc, List.singleton_append, decode_cons hamp, ih, List.cons_append]

@[simp] theorem unescape_escape_append (text rest : List Char) :
    unescape (escape text ++ rest) = text ++ unescape rest := by
  rw [unescape_eq_decode, unescape_eq_decode, decode_escape_append]

/-- Escaping is undone. -/
@[simp] theorem unescape_escape (text : List Char) : unescape (escape text) = text := by
  have h := unescape_escape_append text []
  rwa [unescape_eq_decode [], List.append_nil, decode, List.append_nil] at h

/-- **The entities are decoded in one pass.**  Replacing them one kind after the other is reading
the text once; escaping is undone; and nothing is decoded twice, since what an escaped text stands
for is not looked at again, whatever the text goes on with. -/
theorem unescape_exact (text rest : List Char) :
    unescape text = decode text ∧ unescape (escape text) = text ∧
      unescape (escape text ++ rest) = text ++ unescape rest :=
  ⟨unescape_eq_decode text, unescape_escape text, unescape_escape_append text rest⟩

/-- An ampersand that comes out starts no entity, and neither does one whose name is cut off. -/
example : unescape "&amp;lt;&ltx&gt;".toList = "&lt;&ltx>".toList := by
  decide +kernel

end ErrorScaffold.Page
