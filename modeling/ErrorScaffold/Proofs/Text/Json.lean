/-
Summaries read back.

A reader for the JSON that is written without blanks: strings, numbers, arrays and objects.  What
was put into a summary is what comes out of it.

* `string?_jsonString` — a string, whatever characters it has;
* `spells_array`, `spells_object` — an array and an object, from what their parts read as;
* `Json.ofText?_of_spells` — a whole text.
-/
import ErrorScaffold.Proofs.Text.Search
import ErrorScaffold.Text.JsonString
import ErrorScaffold.Toml.Text
import Mathlib.Data.List.Forall2
import Std.Data.String.ToNat

namespace ErrorScaffold

/-- A value in JSON, with the numbers that summaries have. -/
inductive Json
  | text (value : String)
  | count (value : Nat)
  | array (elements : List Json)
  | object (members : List (String × Json))

namespace Json

/-! ### Reading -/

/-- The character that a letter stands for after a backslash. -/
def unescaped? (letter : Char) : Option Char :=
  [('\x22', '\x22'), ('\\', '\\'), ('/', '/'), ('b', '\x08'), ('t', '\t'), ('n', '\n'),
    ('f', '\x0c'), ('r', '\r')].lookup letter

/-- The character of four hexadecimal digits. -/
def ofHexadecimal (digits : List Char) : Char :=
  .ofNat (digits.foldl (fun code digit => code * 16 + Toml.Scan.hexValue digit) 0)

/-- Puts a character in front of the string that was read after it. -/
def prepend (c : Char) (read : List Char × List Char) : List Char × List Char :=
  (c :: read.1, read.2)

/-- The rest of a string, up to its closing quotation mark. -/
def quoted? : List Char → Option (List Char × List Char)
  | [] => none
  | '\x22' :: rest => some ([], rest)
  | '\\' :: 'u' :: a :: b :: c :: d :: rest =>
    (quoted? rest).map (prepend (ofHexadecimal [a, b, c, d]))
  | '\\' :: letter :: rest => (unescaped? letter).bind fun c => (quoted? rest).map (prepend c)
  | c :: rest => (quoted? rest).map (prepend c)

/-- A string. -/
def string? : List Char → Option (String × List Char)
  | '\x22' :: rest => (quoted? rest).map fun (chars, rest) => (.ofList chars, rest)
  | _ => none

/-- A number. -/
def number? (input : List Char) : Option (Nat × List Char) :=
  (String.ofList (input.takeWhile Char.isDigit)).toNat?.map fun n =>
    (n, input.dropWhile Char.isDigit)

/-- Items with commas between them, up to what closes the list. -/
def items? (item? : List Char → Option (α × List Char)) (close : Char) :
    Nat → List Char → Option (List α × List Char)
  | 0, _ => none
  | limit + 1, input => do
    let (a, rest) ← item? input
    match rest with
    | [] => none
    | c :: rest =>
      if c = ',' then do
        let (as, rest) ← items? item? close limit rest
        return (a :: as, rest)
      else if c = close then some ([a], rest)
      else none

/-- A list, of which what opens it was read. -/
def list? (item? : List Char → Option (α × List Char)) (close : Char) (input : List Char) :
    Option (List α × List Char) :=
  if input.head? = some close then some ([], input.tail)
  else items? item? close input.length input

/-- A key and the value under it. -/
def member? (value? : List Char → Option (Json × List Char)) (input : List Char) :
    Option ((String × Json) × List Char) := do
  let (key, rest) ← string? input
  match rest with
  | ':' :: rest => do
    let (value, rest) ← value? rest
    return ((key, value), rest)
  | _ => none

/-- A value that is nested no deeper than `depth`. -/
def value? : (depth : Nat) → List Char → Option (Json × List Char)
  | 0, _ => none
  | depth + 1, input =>
    match input with
    | [] => none
    | '[' :: rest => (list? (value? depth) ']' rest).map fun (es, rest) => (.array es, rest)
    | '\x7b' :: rest =>
      (list? (member? (value? depth)) '\x7d' rest).map fun (ms, rest) => (.object ms, rest)
    | '\x22' :: _ => (string? input).map fun (s, rest) => (.text s, rest)
    | _ :: _ => (number? input).map fun (n, rest) => (.count n, rest)

/-- How deep values may be nested. -/
def nestingLimit : Nat := 128

/-- The value that a text spells, with no more than blanks and newlines after it. -/
def ofText? (text : String) : Option Json :=
  match value? nestingLimit text.toList with
  | some (value, rest) => if rest.all Char.isWhitespace then some value else none
  | none => none

/-! ### Strings -/

theorem quoted?_cons {c : Char} (hquote : c ≠ '\x22') (hslash : c ≠ '\\') (rest : List Char) :
    quoted? (c :: rest) = (quoted? rest).map (prepend c) := by
  rw [quoted?]
  · exact hquote
  · exact fun _ _ _ _ _ h => absurd h hslash
  · exact fun _ _ h => absurd h hslash

/-- A control that has no letter is escaped by its two hexadecimal digits, after two zeros. -/
theorem jsonChar_control : ∀ n : Fin 32,
    Char.ofNat n ∉ ['\x08', '\t', '\n', '\x0c', '\r'] →
      (Text.jsonChar (.ofNat n)).toList
          = ['\\', 'u', '0', '0', (n.val / 16).digitChar, (n.val % 16).digitChar] ∧
        ofHexadecimal ['0', '0', (n.val / 16).digitChar, (n.val % 16).digitChar] = .ofNat n := by
  decide

@[simp] theorem quoted?_jsonChar (c : Char) (rest : List Char) :
    quoted? ((Text.jsonChar c).toList ++ rest) = (quoted? rest).map (prepend c) := by
  -- a character with an escape of its own, a control without one, or one that stands for itself
  by_cases hletter : c ∈ ['\x22', '\\', '\x08', '\t', '\n', '\x0c', '\r']
  · simp only [List.mem_cons, List.not_mem_nil, or_false] at hletter
    rcases hletter with rfl | rfl | rfl | rfl | rfl | rfl | rfl <;> rfl
  simp only [List.mem_cons, List.not_mem_nil, or_false, not_or] at hletter
  obtain ⟨hquote, hslash, hrest⟩ := hletter
  by_cases hcontrol : c.toNat < 32
  · obtain ⟨htext, hcode⟩ := jsonChar_control ⟨c.toNat, hcontrol⟩ (by
      simpa [Char.ofNat_toNat] using hrest)
    rw [Char.ofNat_toNat] at htext hcode
    rw [htext]
    show (quoted? rest).map (prepend _) = _
    rw [hcode]
  · have hself : (Text.jsonChar c).toList = [c] := by
      simp [Text.jsonChar, *]
    rw [hself]
    exact quoted?_cons hquote hslash rest

@[simp] theorem quoted?_join (chars rest : List Char) :
    quoted? ((String.join (chars.map Text.jsonChar)).toList ++ '\x22' :: rest)
      = some (chars, rest) := by
  induction chars with
  | nil => rfl
  | cons c chars ih =>
    rw [List.map_cons, String.join_cons, String.toList_append, List.append_assoc,
      quoted?_jsonChar, ih]
    rfl

theorem toList_jsonString_append (value : String) (rest : List Char) :
    (Text.jsonString value).toList ++ rest
      = '\x22' :: ((String.join (value.toList.map Text.jsonChar)).toList ++ '\x22' :: rest) := by
  unfold Text.jsonString
  simp only [String.toList_append, String.reduceToList, List.append_assoc, List.cons_append,
    List.nil_append]

/-- A string reads back, whatever comes after it. -/
@[simp] theorem string?_jsonString (value : String) (rest : List Char) :
    string? ((Text.jsonString value).toList ++ rest) = some (value, rest) := by
  rw [toList_jsonString_append, string?, quoted?_join, Option.map_some]
  dsimp only
  rw [String.ofList_toList]

/-! ### What a text reads as -/

/-- The text reads as `a`, in front of whatever does not go on with a digit. -/
def Spells (read? : List Char → Option (α × List Char)) (written : String) (a : α) : Prop :=
  ∀ rest : List Char, (∀ c ∈ rest.head?, c.isDigit = false) →
    read? (written.toList ++ rest) = some (a, rest)

theorem number?_repr (n : Nat) : Spells number? n.repr n := by
  intro rest hrest
  have hdigits : ∀ c ∈ n.repr.toList, c.isDigit = true := fun _ => Text.isDigit_of_mem_repr
  rw [number?, Text.takeWhile_run hdigits hrest, Text.dropWhile_run hdigits hrest,
    String.ofList_toList, Nat.toNat?_repr]
  rfl

/-! ### Lists -/

section lists

variable {item? : List Char → Option (α × List Char)} {close : Char}

/-- Items read back up to what closes the list; neither this nor a comma is a digit. -/
theorem items?_of_spells (hcomma : close ≠ ',') (hclose : close.isDigit = false)
    {written : List String} {as : List α} (h : List.Forall₂ (Spells item?) written as)
    (hne : written ≠ []) {limit : Nat} (hlimit : written.length ≤ limit) (rest : List Char) :
    items? item? close limit ((",".intercalate written).toList ++ close :: rest)
      = some (as, rest) := by
  induction h generalizing limit with
  | nil => exact absurd rfl hne
  | @cons text a written as hitem hitems ih =>
    cases limit with
    | zero => cases hlimit
    | succ limit =>
      cases written with
      -- the last item, before what closes the list
      | nil =>
        have hread : item? (text.toList ++ close :: rest) = some (a, close :: rest) :=
          hitem _ (by simpa using hclose)
        cases hitems
        rw [String.intercalate_singleton, items?, hread]
        simp [hcomma]
      -- another comes after it, behind a comma
      | cons next written =>
        have hread : ∀ rest, item? (text.toList ++ ',' :: rest) = some (a, ',' :: rest) :=
          fun rest => hitem _ (by simp)
        have hsplit : (",".intercalate (text :: next :: written)).toList ++ close :: rest
            = text.toList ++ ',' :: ((",".intercalate (next :: written)).toList ++ close :: rest)
            := by
          rw [String.intercalate_cons_cons]
          simp
        have hitems := ih (List.cons_ne_nil next written) (Nat.le_of_succ_le_succ hlimit)
        rw [hsplit, items?, hread]
        simp only [Option.bind_eq_bind, Option.bind_some, if_true, hitems]
        rfl

/-- There are no more items than characters. -/
theorem length_le_length_intercalate (written : List String) :
    written.length ≤ (",".intercalate written).toList.length + 1 := by
  induction written with
  | nil => exact Nat.zero_le _
  | cons text written ih =>
    cases written with
    | nil => simp
    | cons next written =>
      rw [String.intercalate_cons_cons]
      simp only [List.length_cons, String.toList_append, List.length_append] at ih ⊢
      simp only [String.reduceToList, List.length_cons, List.length_nil]
      omega

/-- A list reads back; an item does not start with what closes the list. -/
theorem list?_of_spells (hcomma : close ≠ ',') (hclose : close.isDigit = false)
    (hitem : ∀ rest, item? (close :: rest) = none) {written : List String} {as : List α}
    (h : List.Forall₂ (Spells item?) written as) (rest : List Char) :
    list? item? close ((",".intercalate written).toList ++ close :: rest) = some (as, rest) := by
  cases written with
  | nil =>
    cases h
    exact if_pos rfl
  | cons text written =>
    generalize hinput : (",".intercalate (text :: written)).toList ++ close :: rest = input
    have hlength : (text :: written).length ≤ input.length := by
      have hle := length_le_length_intercalate (text :: written)
      rw [← hinput, List.length_append, List.length_cons (a := close)]
      omega
    have hitems : items? item? close input.length input = some (as, rest) :=
      hinput ▸ items?_of_spells hcomma hclose h (List.cons_ne_nil text written)
        (hinput ▸ hlength) rest
    rw [list?, if_neg, hitems]
    intro hhead
    -- otherwise there would be no first item
    obtain ⟨tail, rfl⟩ := List.head?_eq_some_iff.1 hhead
    rw [List.length_cons, items?, hitem] at hitems
    cases hitems

end lists

/-! ### Values -/

theorem spells_text (depth : Nat) (value : String) :
    Spells (value? (depth + 1)) (Text.jsonString value) (.text value) := by
  intro rest _
  have hread := string?_jsonString value rest
  rw [toList_jsonString_append] at hread ⊢
  rw [value?, hread]
  rfl

theorem value?_of_isDigit (depth : Nat) {c : Char} (hc : c.isDigit = true) (rest : List Char) :
    value? (depth + 1) (c :: rest)
      = (number? (c :: rest)).map fun (n, rest) => (.count n, rest) := by
  rw [value?]
  all_goals
    rintro rfl
    cases hc

theorem spells_count (depth n : Nat) : Spells (value? (depth + 1)) n.repr (.count n) := by
  intro rest hrest
  have hread := number?_repr n rest hrest
  cases hdigits : n.repr.toList with
  | nil => exact absurd (String.toList_eq_nil_iff.1 hdigits) Nat.repr_ne_empty
  | cons c digits =>
    have hc : c.isDigit = true := Text.isDigit_of_mem_repr (n := n) (hdigits ▸ List.mem_cons_self)
    rw [hdigits, List.cons_append] at hread
    rw [List.cons_append, value?_of_isDigit depth hc, hread]
    rfl

@[simp] theorem value?_close (depth : Nat) (rest : List Char) :
    value? depth (']' :: rest) = none := by
  cases depth with
  | zero => rfl
  | succ depth =>
    have hnumber : "".toNat? = none :=
      String.toNat?_eq_none (by rw [Bool.eq_false_iff, ne_eq, String.isNat_iff]; simp)
    have hread : number? (']' :: rest) = none := Option.map_eq_none_iff.2 hnumber
    rw [value?, hread, Option.map_none]
    all_goals decide

/-- An array, from what its elements read as. -/
theorem spells_array {depth : Nat} {written : List String} {elements : List Json}
    (h : List.Forall₂ (Spells (value? depth)) written elements) :
    Spells (value? (depth + 1)) ("[" ++ ",".intercalate written ++ "]") (.array elements) := by
  intro rest _
  have hsplit : ("[" ++ ",".intercalate written ++ "]").toList ++ rest
      = '[' :: ((",".intercalate written).toList ++ ']' :: rest) := by
    simp
  rw [hsplit, value?, list?_of_spells (by decide) (by decide) (value?_close depth) h]
  rfl

/-- A member of an object, as it is written. -/
def memberText (key written : String) : String :=
  Text.jsonString key ++ ":" ++ written

theorem spells_member {read? : List Char → Option (Json × List Char)} {written : String}
    {value : Json} (h : Spells read? written value) (key : String) :
    Spells (member? read?) (memberText key written) (key, value) := by
  intro rest hrest
  have hsplit : (memberText key written).toList ++ rest
      = (Text.jsonString key).toList ++ ':' :: (written.toList ++ rest) := by
    simp [memberText]
  rw [hsplit, member?, string?_jsonString]
  simp [h rest hrest]

/-- An object, from what its members read as. -/
theorem spells_object {depth : Nat} {written : List String} {members : List (String × Json)}
    (h : List.Forall₂ (Spells (member? (value? depth))) written members) :
    Spells (value? (depth + 1)) ("\x7b" ++ ",".intercalate written ++ "\x7d")
      (.object members) := by
  intro rest _
  have hsplit : ("\x7b" ++ ",".intercalate written ++ "\x7d").toList ++ rest
      = '\x7b' :: ((",".intercalate written).toList ++ '\x7d' :: rest) := by
    simp
  rw [hsplit, value?, list?_of_spells (by decide) (by decide) (fun _ => rfl) h]
  rfl

/-- What a text spells is read from it, also as a line of its own. -/
theorem ofText?_of_spells {written : String} {value : Json}
    (h : Spells (value? nestingLimit) written value) : ofText? (written ++ "\n") = some value := by
  have hread : value? nestingLimit (written ++ "\n").toList = some (value, ['\n']) := by
    rw [String.toList_append]
    exact h ['\n'] (by simp)
  rw [ofText?, hread]
  rfl

end Json

end ErrorScaffold
