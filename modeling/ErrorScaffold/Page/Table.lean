/-
The tables of a page that are marked as standard.

A table counts when an attribute `class="…"` of its opening tag has `standard-table` in its value
as a whole word.  Of several such attributes the last that leaves room for the rest of the table
decides where the opening tag ends: at the first `>` after the value.  A table ends at the next
`</table>`, and the search for more goes on after it.

* `length_lt_of_standardTable?` — what follows a table is shorter than the page.
-/
import ErrorScaffold.Page.Element

namespace ErrorScaffold.Page

/-- The word that marks a table. -/
def standardTableWord : List Char := "standard-table".toList

/-- What opens the value of a class attribute. -/
def classAttribute : List Char := "class=\"".toList

/-- Whether `word` stands in `text` with no word character before or after it; `fresh` tells
whether one stands before the text. -/
def hasWordFrom (word : List Char) : (fresh : Bool) → List Char → Bool
  | _, [] => false
  | fresh, c :: rest =>
    (fresh && ((word.isPrefixOf? (c :: rest)).map atWordBoundary).getD false)
      || hasWordFrom word (!Text.isWordChar c) rest

/-- Whether `word` stands in `text` as a whole word. -/
def hasWord (word text : List Char) : Bool :=
  hasWordFrom word true text

/-- The body of a table and the text after it, read from a place in the opening tag at which the
attribute that marks the table starts. -/
def markedBody? (text : List Char) : Option (List Char × List Char) := do
  let afterQuote ← classAttribute.isPrefixOf? text
  let (value, attributes) ← Text.splitAtFirst? ['\x22'] afterQuote
  if hasWord standardTableWord value then
    let (_, content) ← Text.splitAtFirst? ['>'] attributes
    Text.splitAtFirst? (closing "table".toList) content
  else none

/-- The body of a standard table and the text after it, read from a place in the opening tag: the
last attribute that marks the table is taken, and none starts after a `>`. -/
def standardBody? : List Char → Option (List Char × List Char)
  | [] => none
  | c :: rest =>
    match if c == '>' then none else standardBody? rest with
    | some found => some found
    | none => markedBody? (c :: rest)

/-- The body of the first standard table of a page, and the page after it. -/
def standardTable? : List Char → Option (List Char × List Char)
  | [] => none
  | c :: rest =>
    match (opening? "table".toList (c :: rest)).bind standardBody? with
    | some found => some found
    | none => standardTable? rest

/-! ### The search ends -/

theorem length_lt_of_markedBody? {text body after : List Char}
    (h : markedBody? text = some (body, after)) : after.length < text.length := by
  simp only [markedBody?, Option.bind_eq_bind, Option.bind_eq_some_iff, Prod.exists] at h
  obtain ⟨afterQuote, hq, value, attributes, hv, hrest⟩ := h
  split at hrest
  · simp only [Option.bind_eq_some_iff, Prod.exists] at hrest
    obtain ⟨_, content, hc, hb⟩ := hrest
    have h₁ := Text.length_of_isPrefixOf? hq
    have h₂ := Text.length_lt_of_splitAtFirst? (by simp) hv
    have h₃ := Text.length_lt_of_splitAtFirst? (by simp) hc
    have h₄ := Text.length_lt_of_splitAtFirst? (by simp [closing]) hb
    omega
  · cases hrest

theorem length_lt_of_standardBody? {text body after : List Char}
    (h : standardBody? text = some (body, after)) : after.length < text.length := by
  induction text with
  | nil => simp [standardBody?] at h
  | cons c rest ih =>
    simp only [standardBody?] at h
    split at h
    · next found hf =>
      obtain rfl := Option.some.inj h
      split at hf
      · cases hf
      · exact Nat.lt_succ_of_lt (ih hf)
    · exact length_lt_of_markedBody? h

theorem length_lt_of_standardTable? {text body after : List Char}
    (h : standardTable? text = some (body, after)) : after.length < text.length := by
  induction text with
  | nil => simp [standardTable?] at h
  | cons c rest ih =>
    simp only [standardTable?] at h
    split at h
    · next found hf =>
      -- a standard table opens here; its body is taken off what follows the opening
      obtain rfl := Option.some.inj h
      obtain ⟨attributes, ho, hb⟩ := Option.bind_eq_some_iff.1 hf
      have h₁ := length_lt_of_standardBody? hb
      simp only [opening?] at ho
      split at ho
      · next hp =>
        split at ho
        · obtain rfl := Option.some.inj ho
          have hlength := Text.length_of_isPrefixOf? hp
          omega
        · cases ho
      · cases ho
    · -- none opens here, so the scan goes on behind the character
      exact Nat.lt_succ_of_lt (ih h)

/-- The bodies of the standard tables of a page, in order. -/
def standardTables (text : List Char) : List (List Char) :=
  match h : standardTable? text with
  | none => []
  | some (body, after) =>
    have : after.length < text.length := length_lt_of_standardTable? h
    body :: standardTables after
termination_by text.length

end ErrorScaffold.Page
