/-
The elements of one tag in a page, as a scan from left to right.

An element starts where `<name` stands and no word character follows, its body starts after the
next `>`, and ends at the next `</name>`; the scan goes on after that.  Elements do not nest, and a
start that lacks either part ends the scan, since every later start would lack it too.

* `length_lt_of_element?` — what follows an element is shorter than the text, so the scan ends.
-/
import ErrorScaffold.Text.Split
import ErrorScaffold.Text.WordChar

namespace ErrorScaffold.Page

/-- No word goes on at the start of the text. -/
def atWordBoundary (text : List Char) : Bool :=
  match text.head? with
  | some c => !Text.isWordChar c
  | none => true

/-- What follows `<name` at the start of a text, where the name ends there. -/
def opening? (name text : List Char) : Option (List Char) :=
  match ('<' :: name).isPrefixOf? text with
  | some after => if atWordBoundary after then some after else none
  | none => none

/-- What follows the first `<name` of a text at which the name ends. -/
def afterOpening? (name : List Char) : List Char → Option (List Char)
  | [] => none
  | c :: rest =>
    match opening? name (c :: rest) with
    | some after => some after
    | none => afterOpening? name rest

/-- The closing tag of an element. -/
def closing (name : List Char) : List Char :=
  '<' :: '/' :: name ++ ['>']

/-- The body of the first element of a text, and the text after it. -/
def element? (name text : List Char) : Option (List Char × List Char) := do
  let attributes ← afterOpening? name text
  let (_, content) ← Text.splitAtFirst? ['>'] attributes
  Text.splitAtFirst? (closing name) content

theorem length_le_of_afterOpening? {name text after : List Char}
    (h : afterOpening? name text = some after) : after.length ≤ text.length := by
  induction text with
  | nil => simp [afterOpening?] at h
  | cons c rest ih =>
    simp only [afterOpening?] at h
    split at h
    · next found hf =>
      -- the tag opens here, and what is left is behind its name
      obtain rfl := Option.some.inj h
      simp only [opening?] at hf
      split at hf
      · next hp =>
        split at hf
        · obtain rfl := Option.some.inj hf
          have hlength := Text.length_of_isPrefixOf? hp
          omega
        · cases hf
      · cases hf
    · -- no tag opens here, so the scan goes on behind the character
      exact Nat.le_succ_of_le (ih h)

theorem length_lt_of_element? {name text body after : List Char}
    (h : element? name text = some (body, after)) : after.length < text.length := by
  simp only [element?, Option.bind_eq_bind, Option.bind_eq_some_iff, Prod.exists] at h
  obtain ⟨attributes, ha, _, content, hc, hb⟩ := h
  have h₁ := length_le_of_afterOpening? ha
  have h₂ := Text.length_lt_of_splitAtFirst? (by simp) hc
  have h₃ := Text.length_lt_of_splitAtFirst? (by simp [closing]) hb
  omega

/-- The bodies of the elements of a text, in order. -/
def elements (name text : List Char) : List (List Char) :=
  match h : element? name text with
  | none => []
  | some (body, after) =>
    have : after.length < text.length := length_lt_of_element? h
    body :: elements name after
termination_by text.length

end ErrorScaffold.Page
