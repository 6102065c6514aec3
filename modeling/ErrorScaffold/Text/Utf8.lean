/-
Decoding bytes that are supposed to be UTF-8.

A byte that starts no character, or a sequence that breaks off, becomes one replacement character
U+FFFD and reading goes on at the first byte that does not belong to it.  So a sequence cut short
gives a single replacement character, however many of its bytes were right.
-/

namespace ErrorScaffold.Text

/-- What a first byte announces: how many bytes follow, and the range of the first of these. -/
def leadByte? (b : Nat) : Option (Nat × Nat × Nat) :=
  if b < 0x80 then some (0, 0x80, 0xBF)
  else if b < 0xC2 then none
  else if b < 0xE0 then some (1, 0x80, 0xBF)
  else if b = 0xE0 then some (2, 0xA0, 0xBF)
  else if b = 0xED then some (2, 0x80, 0x9F)
  else if b < 0xF0 then some (2, 0x80, 0xBF)
  else if b = 0xF0 then some (3, 0x90, 0xBF)
  else if b < 0xF4 then some (3, 0x80, 0xBF)
  else if b = 0xF4 then some (3, 0x80, 0x8F)
  else none

/-- The bits that a first byte gives to the code point, `count` bytes following. -/
def leadBits (count b : Nat) : Nat :=
  match count with
  | 0 => b
  | 1 => b % 0x20
  | 2 => b % 0x10
  | _ => b % 0x08

/-- Reads `count` following bytes, the first within `low..high`: the code point, unless one is
missing, and the bytes not read. -/
def followingBytes : (count low high bits : Nat) → List UInt8 → Option Nat × List UInt8
  | 0, _, _, bits, bytes => (some bits, bytes)
  | _ + 1, _, _, _, [] => (none, [])
  | count + 1, low, high, bits, b :: bytes =>
    if low ≤ b.toNat ∧ b.toNat ≤ high then
      followingBytes count 0x80 0xBF (bits * 0x40 + b.toNat % 0x40) bytes
    else (none, b :: bytes)

theorem length_followingBytes_le (count low high bits : Nat) (bytes : List UInt8) :
    (followingBytes count low high bits bytes).2.length ≤ bytes.length := by
  induction count generalizing low high bits bytes with
  | zero => simp [followingBytes]
  | succ count ih =>
    cases bytes with
    | nil => simp [followingBytes]
    | cons b bytes =>
      simp only [followingBytes]
      split
      · exact Nat.le_trans (ih _ _ _ _) (Nat.le_succ _)
      · exact Nat.le_refl _

/-- The replacement character. -/
def replacementChar : Char := '\ufffd'

/-- The characters of a byte sequence, invalid parts replaced. -/
def decodeLossy : List UInt8 → List Char
  | [] => []
  | b :: bytes =>
    match leadByte? b.toNat with
    | none => replacementChar :: decodeLossy bytes
    | some (count, low, high) =>
      let read := followingBytes count low high (leadBits count b.toNat) bytes
      read.1.elim replacementChar Char.ofNat :: decodeLossy read.2
termination_by bytes => bytes.length
decreasing_by
  · exact Nat.lt_succ_self _
  · exact Nat.lt_succ_of_le (length_followingBytes_le _ _ _ _ _)

end ErrorScaffold.Text
