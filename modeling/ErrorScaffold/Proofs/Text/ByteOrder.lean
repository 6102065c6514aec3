/-
The order of texts by their bytes.

Texts are ordered by code points, character by character.  In UTF-8 the first byte of a character
tells how many bytes follow and grows with their number; all bytes together are the digits of the
code point.  So of two characters the one with the lower code point has the lower byte at the first
place at which they differ, and the bytes of neither begin with those of the other.

* `precedes_utf8EncodeChar` — this order of two characters;
* `bytes_lt_iff` — texts are in the order of their bytes.
-/
import Mathlib.Data.String.Basic

namespace ErrorScaffold.Text

/-- The bytes of a text in UTF-8. -/
def bytes (s : String) : List UInt8 :=
  s.toUTF8.data.toList

theorem bytes_eq (s : String) : bytes s = s.toList.flatMap String.utf8EncodeChar := by
  rw [bytes, String.toUTF8_eq_toByteArray, ← String.utf8Encode_toList, List.utf8Encode,
    List.toList_data_toByteArray]

/-! ### Bytes that differ -/

/-- The bytes differ at a place that both have, and the first ones are lower there. -/
inductive Precedes : List UInt8 → List UInt8 → Prop
  | here {x y : UInt8} {s t : List UInt8} (lt : x < y) : Precedes (x :: s) (y :: t)
  | later {x : UInt8} {s t : List UInt8} (tail : Precedes s t) : Precedes (x :: s) (x :: t)

/-- What comes after the bytes does not change the order. -/
theorem Precedes.append_lt {a b : List UInt8} (h : Precedes a b) (s t : List UInt8) :
    a ++ s < b ++ t := by
  induction h with
  | here lt => exact List.cons_lt_cons_iff.2 (.inl lt)
  | later _ ih => exact List.cons_lt_cons_iff.2 (.inr ⟨rfl, ih⟩)

theorem Precedes.of_lt {m n : Nat} {s t : List UInt8} (h : m < n) (hn : n < 256) :
    Precedes (.ofNat m :: s) (.ofNat n :: t) := by
  refine .here (UInt8.lt_iff_toNat_lt.2 ?_)
  rwa [UInt8.toNat_ofNat_of_lt' (Nat.lt_trans h hn), UInt8.toNat_ofNat_of_lt' hn]

/-! ### Characters as digits -/

/-- The bytes after the first one: the last `count` digits of a code point. -/
def digits : (count v : Nat) → List UInt8
  | 0, _ => []
  | count + 1, v => .ofNat (v / 64 ^ count % 64 + 128) :: digits count v

/-- How many bytes follow the first one. -/
def trailing (v : Nat) : Nat :=
  if v ≤ 0x7f then 0 else if v ≤ 0x7ff then 1 else if v ≤ 0xffff then 2 else 3

/-- The first byte, which holds the digits before the others. -/
def firstByte (v : Nat) : Nat :=
  if v ≤ 0x7f then v
  else if v ≤ 0x7ff then v / 64 + 192
  else if v ≤ 0xffff then v / 64 ^ 2 + 224
  else v / 64 ^ 3 + 240

theorem toNat_val_lt (c : Char) : c.val.toNat < 0x110000 := by
  rcases c.valid with hlow | ⟨-, hhigh⟩
  · exact Nat.lt_trans hlow (by decide)
  · exact hhigh

theorem utf8EncodeChar_eq (c : Char) :
    String.utf8EncodeChar c
      = .ofNat (firstByte c.val.toNat) :: digits (trailing c.val.toNat) c.val.toNat := by
  have hc := toNat_val_lt c
  unfold String.utf8EncodeChar firstByte trailing
  dsimp only
  generalize c.val.toNat = v at hc
  -- the four lengths of an encoding; the bound keeps the first byte from overflowing
  split
  · rfl
  · split
    · rw [Nat.mod_eq_of_lt (by omega : v / 64 < 32)]
      simp [digits]
    · split
      · rw [Nat.mod_eq_of_lt (by omega : v / 4096 < 16)]
        simp [digits]
      · rw [Nat.mod_eq_of_lt (by omega : v / 262144 < 8)]
        simp [digits]

/-- A greater code point has a greater first byte, or one of the same kind. -/
theorem firstByte_lt {m n : Nat} (h : m < n) (hn : n < 0x110000) :
    firstByte n < 256 ∧ (firstByte m < firstByte n ∨
      firstByte m = firstByte n ∧ trailing m = trailing n ∧
        m / 64 ^ trailing m = n / 64 ^ trailing n) := by
  unfold firstByte trailing
  split_ifs <;> omega

/-- Numbers with the same digits up to some place differ after it. -/
theorem precedes_digits {m n count : Nat} (h : m < n) (hsame : m / 64 ^ count = n / 64 ^ count) :
    Precedes (digits count m) (digits count n) := by
  induction count with
  | zero =>
    rw [Nat.pow_zero, Nat.div_one, Nat.div_one] at hsame
    exact absurd hsame (Nat.ne_of_lt h)
  | succ count ih =>
    have hle : m / 64 ^ count ≤ n / 64 ^ count := Nat.div_le_div_right (Nat.le_of_lt h)
    rw [Nat.pow_succ, ← Nat.div_div_eq_div_mul, ← Nat.div_div_eq_div_mul] at hsame
    rcases Nat.lt_or_eq_of_le hle with hlt | heq
    · exact .of_lt (by omega) (by omega)
    · rw [digits, digits, heq]
      exact .later (ih heq)

theorem precedes_utf8EncodeChar {c d : Char} (h : c < d) :
    Precedes (String.utf8EncodeChar c) (String.utf8EncodeChar d) := by
  have hlt : c.val.toNat < d.val.toNat := UInt32.lt_iff_toNat_lt.1 (Char.lt_def.1 h)
  rw [utf8EncodeChar_eq, utf8EncodeChar_eq]
  obtain ⟨hbyte, hfirst | ⟨hfirst, hcount, hsame⟩⟩ := firstByte_lt hlt (toNat_val_lt d)
  · exact .of_lt hfirst hbyte
  · rw [hfirst, hcount]
    rw [hcount] at hsame
    exact .later (precedes_digits hlt hsame)

/-! ### Texts -/

theorem flatMap_utf8EncodeChar_lt {s t : List Char} (h : s < t) :
    s.flatMap String.utf8EncodeChar < t.flatMap String.utf8EncodeChar := by
  induction h with
  | @nil c t =>
    -- no character is without a byte
    rw [List.flatMap_cons, utf8EncodeChar_eq]
    exact .nil
  | @rel c s d t hlt =>
    rw [List.flatMap_cons, List.flatMap_cons]
    exact (precedes_utf8EncodeChar hlt).append_lt _ _
  | cons _ ih =>
    rw [List.flatMap_cons, List.flatMap_cons]
    exact List.append_left_lt ih

theorem bytes_lt_of_lt {a b : String} (h : a < b) : bytes a < bytes b := by
  rw [bytes_eq, bytes_eq]
  exact flatMap_utf8EncodeChar_lt (String.lt_iff_toList_lt.1 h)

/-- The order of texts is that of their bytes. -/
@[simp] theorem bytes_lt_iff {a b : String} : bytes a < bytes b ↔ a < b := by
  refine ⟨fun h => ?_, bytes_lt_of_lt⟩
  rcases lt_trichotomy a b with hlt | rfl | hgt
  · exact hlt
  · exact absurd h (List.lt_irrefl _)
  · exact absurd h (List.lt_asymm (bytes_lt_of_lt hgt))

end ErrorScaffold.Text
