/-
The grammar of names.

A name is spelled `[A-Za-z_][A-Za-z0-9_]*`, is no keyword and is not set aside for the
implementation.  What is asked of its characters, one question after the other, comes to this
grammar, and the answer to the first question that fails is the first rule that the name breaks.

* `isPart_iff`, `isReserved_iff` — the single questions;
* `defect?_of_isSpelled` — what is left to ask of a name that is spelled right;
* `check_eq_ok_iff_isUsable`, `check_eq_error_iff` — both outcomes;
* `reservedInBytes?_eq` — the question that is asked of bytes has an answer for every text.
-/
import ErrorScaffold.Proofs.Identifier.Word

namespace ErrorScaffold.Identifier

/-! ### The grammar -/

/-- `[A-Z]`. -/
def Upper (c : Char) : Prop :=
  'A' ≤ c ∧ c ≤ 'Z'

/-- `[A-Za-z_]`. -/
def Nondigit (c : Char) : Prop :=
  Upper c ∨ ('a' ≤ c ∧ c ≤ 'z') ∨ c = '_'

/-- `[A-Za-z0-9_]`. -/
def Continues (c : Char) : Prop :=
  Nondigit c ∨ ('0' ≤ c ∧ c ≤ '9')

/-- The whole text is `[A-Za-z_][A-Za-z0-9_]*`. -/
def IsSpelled (text : List Char) : Prop :=
  ∃ first rest, text = first :: rest ∧ Nondigit first ∧ ∀ c ∈ rest, Continues c

/-- Two underscores are next to each other, or one is in front of an uppercase letter at the
start. -/
def IsSetAside (text : List Char) : Prop :=
  ['_', '_'] <:+: text ∨ ∃ c rest, text = '_' :: c :: rest ∧ Upper c

/-- A name that can be used as it is. -/
structure IsUsable (name : String) : Prop where
  spelled : IsSpelled name.toList
  not_keyword : name ∉ keywords
  not_setAside : ¬IsSetAside name.toList

/-- The first rule that a name breaks; each defect says that those before it are not there. -/
inductive Breaks (name : String) : NameDefect → Prop
  | empty (h : name = "") : Breaks name .empty
  | illegalStart {first : Char} {rest : List Char} (hname : name.toList = first :: rest)
      (h : ¬Nondigit first) : Breaks name .illegalStart
  | illegalCharacter {first c : Char} {front back : List Char}
      (hname : name.toList = first :: (front ++ c :: back)) (hfirst : Nondigit first)
      (hfront : ∀ d ∈ front, Continues d) (h : ¬Continues c) : Breaks name (.illegalCharacter c)
  | keyword (hspelled : IsSpelled name.toList) (h : name ∈ keywords) : Breaks name .keyword
  | reserved (hspelled : IsSpelled name.toList) (hkeyword : name ∉ keywords)
      (h : IsSetAside name.toList) : Breaks name .reserved

/-! ### The single questions -/

theorem isUpper_iff {c : Char} : c.isUpper = true ↔ Upper c :=
  decide_eq_true_iff

@[simp] theorem isStart_iff {c : Char} : isStart c = true ↔ Nondigit c := by
  have hlower : c.isLower = true ↔ 'a' ≤ c ∧ c ≤ 'z' :=
    Bool.and_eq_true_iff.trans (and_congr decide_eq_true_iff decide_eq_true_iff)
  show (c.isUpper || c.isLower || c == '_') = true ↔ _
  rw [Bool.or_eq_true, Bool.or_eq_true, isUpper_iff, hlower, beq_iff_eq, or_assoc, Nondigit]

@[simp] theorem isPart_iff {c : Char} : isPart c = true ↔ Continues c := by
  have hdigit : c.isDigit = true ↔ '0' ≤ c ∧ c ≤ '9' :=
    Bool.and_eq_true_iff.trans (and_congr decide_eq_true_iff decide_eq_true_iff)
  rw [Continues, ← isStart_iff, ← hdigit, ← Bool.or_eq_true]
  show (c.isAlpha || c.isDigit || c == '_') = true ↔ (c.isAlpha || c == '_' || c.isDigit) = true
  rw [Bool.or_right_comm]

@[simp] theorem hasDoubleUnderscore_iff {text : List Char} :
    hasDoubleUnderscore text = true ↔ ['_', '_'] <:+: text := by
  fun_induction hasDoubleUnderscore text with
  | case1 c d rest ih =>
    have hfront : ['_', '_'] <+: c :: d :: rest ↔ c = '_' ∧ d = '_' := by
      simp [List.cons_prefix_cons, eq_comm]
    rw [Bool.or_eq_true, Bool.and_eq_true, beq_iff_eq, beq_iff_eq, ih,
      List.infix_cons_iff (a := c), hfront]
  -- a text of less than two characters, however it is cut, has no room for the pair
  | case2 text hshort =>
    refine ⟨nofun, ?_⟩
    rintro ⟨front, back, rfl⟩
    cases front with
    | nil => exact (hshort '_' '_' back rfl).elim
    | cons c front =>
      cases front with
      | nil => exact (hshort c '_' _ rfl).elim
      | cons d front => exact (hshort c d _ rfl).elim

@[simp] theorem startsUnderscoreUpper_iff {text : List Char} :
    startsUnderscoreUpper text = true ↔ ∃ c rest, text = '_' :: c :: rest ∧ Upper c := by
  -- only from two characters on there is something to look at
  obtain _ | ⟨c, _ | ⟨d, rest⟩⟩ := text
  · simp [startsUnderscoreUpper]
  · simp [startsUnderscoreUpper]
  · rw [startsUnderscoreUpper, Bool.and_eq_true, beq_iff_eq, isUpper_iff]
    constructor
    · rintro ⟨rfl, h⟩
      exact ⟨d, rest, rfl, h⟩
    · rintro ⟨d', rest', heq, h⟩
      cases heq
      exact ⟨rfl, h⟩

@[simp] theorem isReserved_iff {text : List Char} : isReserved text = true ↔ IsSetAside text := by
  rw [isReserved, Bool.or_eq_true, hasDoubleUnderscore_iff, startsUnderscoreUpper_iff, IsSetAside]

theorem find?_eq_none_iff {rest : List Char} :
    rest.find? (fun c => !isPart c) = none ↔ ∀ c ∈ rest, Continues c := by
  rw [List.find?_eq_none]
  simp only [Bool.not_eq_true', Bool.not_eq_false, isPart_iff]

theorem find?_eq_some_iff {rest : List Char} {c : Char} :
    rest.find? (fun c => !isPart c) = some c ↔
      ∃ front back, rest = front ++ c :: back ∧ (∀ d ∈ front, Continues d) ∧ ¬Continues c := by
  rw [List.find?_eq_some_iff_append, Bool.not_eq_true', ← Bool.not_eq_true, isPart_iff]
  simp only [Bool.not_not, isPart_iff]
  constructor
  · rintro ⟨hc, front, back, hrest, hfront⟩
    exact ⟨front, back, hrest, hfront, hc⟩
  · rintro ⟨front, back, hrest, hfront, hc⟩
    exact ⟨hc, front, back, hrest, hfront⟩

/-! ### The questions in their order -/

/-- A name that is spelled right can still be a keyword or reserved, and a keyword counts first. -/
theorem defect?_of_isSpelled {name : String} (h : IsSpelled name.toList) :
    defect? name
      = if name ∈ keywords then some .keyword
        else if isReserved name.toList then some .reserved else none := by
  obtain ⟨first, rest, hname, hfirst, hrest⟩ := h
  rw [defect?, hname]
  simp only [isStart_iff.2 hfirst, find?_eq_none_iff.2 hrest, Bool.not_true, Bool.false_eq_true,
    if_false]

theorem breaks_of_defect? {name : String} {defect : NameDefect} (h : defect? name = some defect) :
    Breaks name defect := by
  -- the tests one after the other: where one finds nothing, what it asks for is known
  unfold defect? at h
  split at h
  · next hname =>
    cases h
    exact .empty (String.toList_eq_nil_iff.1 hname)
  · next first rest hname =>
    split at h
    · next hstart =>
      cases h
      rw [Bool.not_eq_true', ← Bool.not_eq_true, isStart_iff] at hstart
      exact .illegalStart hname hstart
    · next hstart =>
      rw [Bool.not_eq_true', Bool.not_eq_false, isStart_iff] at hstart
      split at h
      · next c hfind =>
        cases h
        obtain ⟨front, back, rfl, hfront, hc⟩ := find?_eq_some_iff.1 hfind
        exact .illegalCharacter hname hstart hfront hc
      · next hfind =>
        -- all characters are right, so what is left depends on the whole name
        have hspelled : IsSpelled name.toList :=
          ⟨first, rest, hname, hstart, find?_eq_none_iff.1 hfind⟩
        split at h
        · next hkeyword =>
          cases h
          exact .keyword hspelled hkeyword
        · next hkeyword =>
          split at h
          · next hreserved =>
            cases h
            rw [← hname, isReserved_iff] at hreserved
            exact .reserved hspelled hkeyword hreserved
          · cases h

theorem Breaks.defect?_eq {name : String} {defect : NameDefect} (h : Breaks name defect) :
    defect? name = some defect := by
  cases h with
  | empty h =>
    rw [h]
    rfl
  | illegalStart hname h =>
    rw [← isStart_iff, Bool.not_eq_true] at h
    rw [defect?, hname]
    simp only [h, Bool.not_false, if_true]
  -- the first character passes, and the search behind it stops at this one
  | illegalCharacter hname hfirst hfront h =>
    rw [defect?, hname]
    simp only [isStart_iff.2 hfirst, find?_eq_some_iff.2 ⟨_, _, rfl, hfront, h⟩, Bool.not_true,
      Bool.false_eq_true, if_false]
  | keyword hspelled h => rw [defect?_of_isSpelled hspelled, if_pos h]
  | reserved hspelled hkeyword h =>
    rw [defect?_of_isSpelled hspelled, if_neg hkeyword, if_pos (isReserved_iff.2 h)]

theorem defect?_eq_none_iff_isUsable {name : String} : defect? name = none ↔ IsUsable name := by
  constructor
  · intro h
    obtain ⟨first, rest, hname⟩ := exists_cons_of_defect?_eq_none h
    obtain ⟨hstart, hparts, hkeyword, hreserved⟩ := (defect?_eq_none_iff hname).1 h
    rw [← hname, ← Bool.not_eq_true, isReserved_iff] at hreserved
    exact ⟨⟨first, rest, hname, isStart_iff.1 hstart, fun c hc => isPart_iff.1 (hparts c hc)⟩,
      hkeyword, hreserved⟩
  · rintro ⟨hspelled, hkeyword, hreserved⟩
    rw [defect?_of_isSpelled hspelled, if_neg hkeyword, if_neg (mt isReserved_iff.1 hreserved)]

theorem check_eq_ok_iff_isUsable {name : String} : check name = .ok () ↔ IsUsable name := by
  rw [check_eq_ok_iff, defect?_eq_none_iff_isUsable]

@[simp] theorem defect?_eq_some_iff {name : String} {defect : NameDefect} :
    defect? name = some defect ↔ Breaks name defect :=
  ⟨breaks_of_defect?, Breaks.defect?_eq⟩

theorem check_eq_error_iff {name : String} {defect : NameDefect} :
    check name = .error defect ↔ Breaks name defect := by
  rw [← defect?_eq_some_iff, check]
  cases defect? name <;> simp

/-! ### The question that is asked of bytes -/

/-- The text from a byte on; there is none where a character goes over that byte's beginning. -/
def fromByte? (text : String) (offset : Nat) : Option String.Slice :=
  if h : String.Pos.Raw.IsValid text ⟨offset⟩ then some (text.sliceFrom (text.pos ⟨offset⟩ h))
  else none

/-- Whether an underscore is in front of an uppercase letter, which is looked for from byte 1
on. -/
def upperFromByte? (name : String) : Option Bool :=
  if name.startsWith '_' then (fromByte? name 1).map fun slice => slice.startsWith Char.isUpper
  else some false

/-- Whether a name is reserved, asked of the text as it is encoded. -/
def reservedInBytes? (name : String) : Option Bool :=
  (upperFromByte? name).map fun upper => name.contains "__" || upper

theorem fromByte?_append (front back : String) :
    ∃ slice, fromByte? (front ++ back) front.utf8ByteSize = some slice ∧ slice.copy = back := by
  have hvalid : String.Pos.Raw.IsValid (front ++ back) ⟨front.utf8ByteSize⟩ :=
    String.Pos.Raw.isValid_iff_exists_append.2 ⟨front, back, rfl, rfl⟩
  have hsplits : ((front ++ back).pos ⟨front.utf8ByteSize⟩ hvalid).Splits front back := ⟨rfl, rfl⟩
  exact ⟨_, dif_pos hvalid, hsplits.copy_sliceFrom_eq⟩

theorem upperFromByte?_eq (name : String) :
    upperFromByte? name = some (startsUnderscoreUpper name.toList) := by
  rw [upperFromByte?, String.startsWith_char_eq_head?]
  cases hname : name.toList with
  | nil => rfl
  | cons first rest =>
    by_cases hfirst : first = '_'
    · subst hfirst
      -- the underscore is one byte, so that the rest of the characters begins with byte 1
      have htext : "_" ++ String.ofList rest = name := by
        simp [← String.toList_inj, hname]
      obtain ⟨slice, hslice, hcopy⟩ := fromByte?_append "_" (String.ofList rest)
      rw [htext, show "_".utf8ByteSize = 1 from rfl] at hslice
      rw [if_pos (by rfl), hslice, Option.map_some, String.Slice.startsWith_bool_eq_head?, hcopy,
        String.toList_ofList]
      cases rest <;> rfl
    · rw [if_neg (by simpa using hfirst)]
      cases rest <;> simp [startsUnderscoreUpper, hfirst]

/-- There always is an answer, and it is that of `isReserved`. -/
theorem reservedInBytes?_eq (name : String) :
    reservedInBytes? name = some (isReserved name.toList) := by
  have hdouble : name.contains "__" = hasDoubleUnderscore name.toList := by
    rw [Bool.eq_iff_iff, String.contains_string_iff, hasDoubleUnderscore_iff]
    rfl
  rw [reservedInBytes?, upperFromByte?_eq, Option.map_some, hdouble, isReserved]

end ErrorScaffold.Identifier
