/-
Characters of an address that stand there only as percent-encoded bytes.

Each part of an address has a set of such characters in ASCII, and controls and characters beyond
ASCII are encoded everywhere.  A percent sign is left alone, so that what is encoded already stays
as it is.
-/

namespace ErrorScaffold.Url

/-- The parts of an address that may hold any text. -/
inductive Part
  | credentials
  | path
  | query
  | fragment
  deriving DecidableEq, Repr

/-- The ASCII characters, controls apart, that a part holds only encoded. -/
def Part.encoded : Part → List Char
  | credentials =>
    [' ', '\x22', '#', '/', ':', ';', '<', '=', '>', '?', '@', '[', '\\', ']', '^', '\x60',
      '\x7b', '|', '\x7d']
  | path => [' ', '\x22', '#', '<', '>', '?', '\x60', '\x7b', '\x7d']
  | query => [' ', '\x22', '#', '\x27', '<', '>']
  | fragment => [' ', '\x22', '<', '>', '\x60']

/-- A hexadecimal digit, with the letters in upper case. -/
def hexDigit (n : Nat) : Char :=
  if n < 10 then Char.ofNat ('0'.toNat + n) else Char.ofNat ('A'.toNat + (n - 10))

def encodeByte (b : UInt8) : List Char :=
  ['%', hexDigit (b.toNat / 16), hexDigit (b.toNat % 16)]

/-- Whether a part holds a character only encoded. -/
def Part.encodes (part : Part) (c : Char) : Bool :=
  c.toNat < 0x20 || 0x7F ≤ c.toNat || part.encoded.contains c

/-- A character as it stands in a part. -/
def Part.encodeChar (part : Part) (c : Char) : List Char :=
  if part.encodes c then (String.utf8EncodeChar c).flatMap encodeByte else [c]

/-- A text as it stands in a part. -/
def Part.encode (part : Part) (text : List Char) : String :=
  String.ofList (text.flatMap part.encodeChar)

end ErrorScaffold.Url
