/-
Scanning a page that was written element by element.

`writtenElement` is an element as it stands in a page.  The scan finds it with its body and goes
on after it, and it goes over everything in which no opening tag of its name starts.  A table is
found if the word that marks it stands alone in its classes, and gone over otherwise.

* `elements_writtenElement`, `elements_append` — the elements of any name;
* `hasWord_iff` — a word is found where no word character is next to it;
* `standardTables_writtenTable`, `standardTables_append` — the tables marked as standard.
-/
import ErrorScaffold.Page.Table
import ErrorScaffold.Proofs.Text.Search

namespace ErrorScaffold.Page

open Text

/-! ### Elements -/

/-- An element as it is written. -/
def writtenElement (name attributes body : List Char) : List Char :=
  '<' :: name ++ (attributes ++ ['>']) ++ (body ++ closing name)

section

variable {name : List Char}

theorem opening?_eq_none {text : List Char} (h : ('<' :: name).isPrefixOf? text = none) :
    opening? name text = none := by
  rw [opening?, h]

theorem opening?_self {after : List Char} (h : atWordBoundary after = true) :
    opening? name ('<' :: name ++ after) = some after := by
  rw [opening?, isPrefixOf?_append]
  exact if_pos h

theorem afterOpening?_append {piece : List Char} (h : Avoids ('<' :: name) piece)
    (rest : List Char) : afterOpening? name (piece ++ rest) = afterOpening? name rest := by
  induction h with
  | nil => rfl
  | cons first _ ih => rw [List.cons_append, afterOpening?, opening?_eq_none (first rest), ih]

theorem afterOpening?_self {after : List Char} (h : atWordBoundary after = true) :
    afterOpening? name ('<' :: name ++ after) = some after := by
  have hopen : opening? name ('<' :: (name ++ after)) = some after := opening?_self h
  rw [List.cons_append, afterOpening?, hopen]

theorem element?_append {piece : List Char} (h : Avoids ('<' :: name) piece) (rest : List Char) :
    element? name (piece ++ rest) = element? name rest := by
  rw [element?, element?, afterOpening?_append h]

theorem element?_of_avoids {text : List Char} (h : Avoids ('<' :: name) text) :
    element? name text = none := by
  have happend := element?_append h []
  rwa [List.append_nil] at happend

/-- Neither the attributes nor the body of an element end it too soon. -/
theorem element?_writtenElement {attributes body : List Char}
    (hboundary : atWordBoundary (attributes ++ ['>']) = true) (hattributes : '>' ∉ attributes)
    (hbody : Avoids (closing name) body) (rest : List Char) :
    element? name (writtenElement name attributes body ++ rest) = some (body, rest) := by
  have hafter : atWordBoundary (attributes ++ ['>'] ++ (body ++ closing name ++ rest)) = true := by
    cases attributes <;> exact hboundary
  rw [writtenElement, List.append_assoc, List.append_assoc, element?, afterOpening?_self hafter]
  show (splitAtFirst? ['>'] (attributes ++ ['>'] ++ (body ++ closing name ++ rest))).bind _ = _
  rw [splitAtFirst?_needle (avoids_of_not_mem hattributes)]
  exact splitAtFirst?_needle hbody rest

theorem elements_eq (text : List Char) :
    elements name text
      = match element? name text with
        | none => []
        | some (body, after) => body :: elements name after := by
  rw [elements]
  split
  · next h => rw [h]
  · next h => simp only [h]

theorem elements_append {piece : List Char} (h : Avoids ('<' :: name) piece) (rest : List Char) :
    elements name (piece ++ rest) = elements name rest := by
  rw [elements_eq, element?_append h, ← elements_eq]

theorem elements_of_avoids {text : List Char} (h : Avoids ('<' :: name) text) :
    elements name text = [] := by
  rw [elements_eq, element?_of_avoids h]

theorem elements_writtenElement {attributes body : List Char}
    (hboundary : atWordBoundary (attributes ++ ['>']) = true) (hattributes : '>' ∉ attributes)
    (hbody : Avoids (closing name) body) (rest : List Char) :
    elements name (writtenElement name attributes body ++ rest) = body :: elements name rest := by
  rw [elements_eq, element?_writtenElement hboundary hattributes hbody]

end

/-! ### Whole words -/

/-- The word stands in the text, and what is next to it there, if anything is, satisfies `P`. -/
def StandsBetween (P : Char → Prop) (word text : List Char) : Prop :=
  ∃ before after, text = before ++ word ++ after ∧ (∀ c ∈ before.getLast?, P c) ∧
    ∀ c ∈ after.head?, P c

/-- The word stands in the text with no word character next to it. -/
def StandsAlone (word text : List Char) : Prop :=
  StandsBetween (fun c => isWordChar c = false) word text

@[simp] theorem atWordBoundary_iff {text : List Char} :
    atWordBoundary text = true ↔ ∀ c ∈ text.head?, isWordChar c = false := by
  rw [atWordBoundary]
  cases text.head? <;> simp

/-- The scan at a place where the word stands. -/
theorem hasWordFrom_word {word after : List Char} (hword : word ≠ [])
    (h : atWordBoundary after = true) : hasWordFrom word true (word ++ after) = true := by
  obtain ⟨c, rest, rfl⟩ := List.ne_nil_iff_exists_cons.1 hword
  have hfollowing : (c :: rest).isPrefixOf? (c :: (rest ++ after)) = some after :=
    isPrefixOf?_append (c :: rest) after
  rw [List.cons_append, hasWordFrom, hfollowing, Option.map_some, h]
  rfl

/-- A word that stands somewhere after a text is in the whole. -/
theorem hasWordFrom_append {word : List Char} (before : List Char) (fresh : Bool)
    {rest : List Char}
    (h : hasWordFrom word ((before.getLast?.map fun c => !isWordChar c).getD fresh) rest = true) :
    hasWordFrom word fresh (before ++ rest) = true := by
  induction before generalizing fresh with
  | nil => exact h
  | cons c before ih =>
    rw [List.cons_append, hasWordFrom, Bool.or_eq_true]
    refine Or.inr (ih (!isWordChar c) ?_)
    -- what stands before the word is the last character, and `c` only where it is the last
    cases before with
    | nil => exact h
    | cons d before => exact h

/-- Where the scan ends well, the word stands at some place that it went over. -/
theorem exists_of_hasWordFrom {word text : List Char} {fresh : Bool}
    (h : hasWordFrom word fresh text = true) :
    ∃ before after, text = before ++ word ++ after ∧
      (before.getLast?.map fun c => !isWordChar c).getD fresh = true ∧
      atWordBoundary after = true := by
  induction text generalizing fresh with
  | nil => cases h
  | cons c rest ih =>
    rw [hasWordFrom, Bool.or_eq_true, Bool.and_eq_true] at h
    -- the word stands here, or at a later place
    rcases h with ⟨hfresh, hhere⟩ | hlater
    · cases hfollowing : word.isPrefixOf? (c :: rest) with
      | none =>
        rw [hfollowing] at hhere
        cases hhere
      | some after =>
        rw [hfollowing] at hhere
        exact ⟨[], after, (List.append_eq_of_isPrefixOf?_eq_some hfollowing).symm, hfresh, hhere⟩
    · obtain ⟨before, after, rfl, hlast, hafter⟩ := ih hlater
      refine ⟨c :: before, after, rfl, ?_, hafter⟩
      cases before with
      | nil => exact hlast
      | cons d before => exact hlast

theorem hasWord_iff {word text : List Char} (hword : word ≠ []) :
    hasWord word text = true ↔ StandsAlone word text := by
  -- the start of a text is as good as a character that is in no word
  have hfresh : ∀ before : List Char,
      (before.getLast?.map fun c => !isWordChar c).getD true = true ↔
        ∀ c ∈ before.getLast?, isWordChar c = false := by
    intro before
    cases before.getLast? <;> simp
  constructor
  · intro h
    obtain ⟨before, after, htext, hlast, hafter⟩ := exists_of_hasWordFrom h
    exact ⟨before, after, htext, (hfresh before).1 hlast, atWordBoundary_iff.1 hafter⟩
  · rintro ⟨before, after, rfl, hlast, hafter⟩
    rw [hasWord, List.append_assoc]
    refine hasWordFrom_append before true ?_
    rw [(hfresh before).2 hlast]
    exact hasWordFrom_word hword (atWordBoundary_iff.2 hafter)

/-! ### Tables -/

/-- What the classes of a table may not hold: it would end their attribute or the tag, or start
another attribute or tag. -/
def classBreaks : List Char := ['\x22', '=', '<', '>']

/-- The attributes of a table with classes. -/
def classedAttributes (classes : List Char) : List Char :=
  ' ' :: classAttribute ++ (classes ++ ['\x22'])

/-- A table with classes. -/
def writtenTable (classes body : List Char) : List Char :=
  writtenElement "table".toList (classedAttributes classes) body

theorem markedBody?_eq_none {text : List Char} (h : classAttribute.isPrefixOf? text = none) :
    markedBody? text = none := by
  rw [markedBody?, h]
  rfl

/-- No attribute that starts before the end of the opening tag marks the table. -/
theorem standardBody?_of_avoids {piece : List Char} (h : Avoids classAttribute piece)
    (hclose : '>' ∉ piece) (rest : List Char) : standardBody? (piece ++ '>' :: rest) = none := by
  induction h with
  | nil =>
    rw [List.nil_append, standardBody?, if_pos (beq_self_eq_true '>')]
    exact markedBody?_eq_none rfl
  | @cons c piece first _ ih =>
    rw [List.mem_cons, not_or] at hclose
    have hc : ¬(c == '>') = true := by
      rw [beq_iff_eq]
      exact Ne.symm hclose.1
    rw [List.cons_append, standardBody?, if_neg hc, ih hclose.2]
    exact markedBody?_eq_none (first ('>' :: rest))

section

variable {classes body : List Char} (hbody : Avoids (closing "table".toList) body)
  (rest : List Char)
include hbody

theorem markedBody?_classes (hquote : '\x22' ∉ classes) :
    markedBody? (classAttribute ++ (classes ++ ['\x22']
        ++ ('>' :: (body ++ closing "table".toList ++ rest))))
      = if hasWord standardTableWord classes then some (body, rest) else none := by
  have htag : splitAtFirst? ['>'] ('>' :: (body ++ closing "table".toList ++ rest))
      = some ([], body ++ closing "table".toList ++ rest) :=
    splitAtFirst?_self ['>'] _
  rw [markedBody?, isPrefixOf?_append]
  show (splitAtFirst? ['\x22'] _).bind _ = _
  rw [splitAtFirst?_needle (avoids_of_not_mem hquote)]
  show (if hasWord standardTableWord _ then (splitAtFirst? ['>'] _).bind _ else none) = _
  rw [htag]
  refine congrArg (fun found => if hasWord standardTableWord classes then found else none) ?_
  exact splitAtFirst?_needle hbody rest

/-- The attribute with the classes is the only one of its kind, so that it decides. -/
theorem standardBody?_classes (hclasses : ∀ c ∈ classBreaks, c ∉ classes) :
    standardBody? (classedAttributes classes ++ ['>'] ++ (body ++ closing "table".toList ++ rest))
      = if hasWord standardTableWord classes then some (body, rest) else none := by
  have hmarked := markedBody?_classes hbody rest (hclasses '\x22' (by decide))
  -- after the attribute there is no second one: it would need an equals sign
  have hvalue : Avoids classAttribute (classes ++ ['\x22']) :=
    avoids_concat "class".toList ['\x22'] (hclasses '=' (by decide)) (by decide) (by decide)
  have hlater : Avoids classAttribute ("lass=\"".toList ++ (classes ++ ['\x22'])) :=
    (avoids_of_not_mem (by decide)).append hvalue
  have hclose : '>' ∉ "lass=\"".toList ++ (classes ++ ['\x22']) := by
    have hnot : '>' ∉ classes := hclasses '>' (by decide)
    simpa using hnot
  have hnone := standardBody?_of_avoids hlater hclose (body ++ closing "table".toList ++ rest)
  -- the first two characters of the attributes stand before that
  have hattribute : standardBody? (classAttribute ++ (classes ++ ['\x22']
      ++ ('>' :: (body ++ closing "table".toList ++ rest))))
        = if hasWord standardTableWord classes then some (body, rest) else none := by
    show standardBody? ('c' :: ("lass=\"".toList ++ _)) = _
    rw [standardBody?, if_neg (by decide), ← List.append_assoc, hnone, List.append_assoc]
    exact hmarked
  have htext : classedAttributes classes ++ ['>'] ++ (body ++ closing "table".toList ++ rest)
      = ' ' :: (classAttribute ++ (classes ++ ['\x22']
        ++ ('>' :: (body ++ closing "table".toList ++ rest)))) := by
    simp [classedAttributes]
  rw [htext, standardBody?, if_neg (by decide), hattribute]
  split
  · next h => exact h.symm
  · next h => rw [h, markedBody?_eq_none rfl]

end

theorem standardTable?_append {piece : List Char} (h : Avoids ('<' :: "table".toList) piece)
    (rest : List Char) : standardTable? (piece ++ rest) = standardTable? rest := by
  induction h with
  | nil => rfl
  | cons first _ ih =>
    rw [List.cons_append, standardTable?, opening?_eq_none (first rest), Option.bind_none, ih]

/-- After the first character of a table no table starts until it ends. -/
theorem avoids_after_open {classes body : List Char} (hclasses : ∀ c ∈ classBreaks, c ∉ classes)
    (hopen : Avoids ('<' :: "table".toList) body) :
    Avoids ('<' :: "table".toList) ("table".toList ++ (classedAttributes classes ++ ['>'])
      ++ (body ++ closing "table".toList)) := by
  have hattributes : '<' ∉ classedAttributes classes ++ ['>'] := by
    rw [classedAttributes, List.mem_append, List.mem_append, List.mem_append, not_or, not_or,
      not_or]
    exact ⟨⟨by decide, hclasses '<' (by decide), by decide⟩, by decide⟩
  exact ((avoids_of_differs (by decide)).append (avoids_of_not_mem hattributes)).append
    (hopen.append (avoids_of_differs (by decide)))

/-- A table is found with its body if its classes mark it, and otherwise the search goes on: in
the table no other starts. -/
theorem standardTable?_writtenTable {classes body : List Char}
    (hclasses : ∀ c ∈ classBreaks, c ∉ classes)
    (hbody : Avoids (closing "table".toList) body) (hopen : Avoids ('<' :: "table".toList) body)
    (rest : List Char) :
    standardTable? (writtenTable classes body ++ rest)
      = if hasWord standardTableWord classes then some (body, rest) else standardTable? rest := by
  have htext : writtenTable classes body ++ rest
      = '<' :: ("table".toList ++ (classedAttributes classes ++ ['>']
        ++ (body ++ closing "table".toList ++ rest))) := by
    simp [writtenTable, writtenElement]
  have hboundary : atWordBoundary (classedAttributes classes ++ ['>']
      ++ (body ++ closing "table".toList ++ rest)) = true := rfl
  have hfound : opening? "table".toList ('<' :: ("table".toList ++ _)) = some _ :=
    opening?_self hboundary
  -- no table starts inside this one, so that a search that goes on finds none before its end
  have hskip : standardTable? ("table".toList ++ (classedAttributes classes ++ ['>']
      ++ (body ++ closing "table".toList ++ rest))) = standardTable? rest := by
    rw [← standardTable?_append (avoids_after_open hclasses hopen) rest]
    simp only [List.append_assoc]
  rw [htext, standardTable?, hfound, Option.bind_some, standardBody?_classes hbody rest hclasses,
    hskip]
  cases hasWord standardTableWord classes <;> rfl

theorem standardTables_eq (text : List Char) :
    standardTables text
      = match standardTable? text with
        | none => []
        | some (body, after) => body :: standardTables after := by
  rw [standardTables]
  split
  · next h => rw [h]
  · next h => simp only [h]

theorem standardTables_append {piece : List Char} (h : Avoids ('<' :: "table".toList) piece)
    (rest : List Char) : standardTables (piece ++ rest) = standardTables rest := by
  rw [standardTables_eq, standardTable?_append h, ← standardTables_eq]

theorem standardTables_of_avoids {text : List Char} (h : Avoids ('<' :: "table".toList) text) :
    standardTables text = [] := by
  have happend := standardTables_append h []
  rw [List.append_nil] at happend
  rw [happend, standardTables_eq, standardTable?]

/-- A table in front of other text. -/
theorem standardTables_writtenTable {classes body : List Char}
    (hclasses : ∀ c ∈ classBreaks, c ∉ classes)
    (hbody : Avoids (closing "table".toList) body) (hopen : Avoids ('<' :: "table".toList) body)
    (rest : List Char) :
    standardTables (writtenTable classes body ++ rest)
      = if hasWord standardTableWord classes then body :: standardTables rest
        else standardTables rest := by
  rw [standardTables_eq, standardTable?_writtenTable hclasses hbody hopen]
  by_cases hword : hasWord standardTableWord classes = true
  · rw [if_pos hword, if_pos hword]
  · rw [if_neg hword, if_neg hword, ← standardTables_eq]

end ErrorScaffold.Page
