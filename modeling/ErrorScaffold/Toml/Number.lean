/-
Integers and floating point numbers.

An underscore may stand between two digits.  A decimal number starts with no needless zero and may
have a sign; a fraction or an exponent makes it a floating point number.  Integers in base 16, 8
and 2 have no sign.  An integer has to fit in 64 bits, and a floating point number must not be too
large.
-/
import ErrorScaffold.Toml.Text
import ErrorScaffold.Toml.Value

namespace ErrorScaffold.Toml

namespace Scan

/-- More digits of a class, each perhaps after an underscore. -/
def moreDigits (isDigit : Char → Bool) : Scan (List Char) :=
  many (optional (char '_') *> satisfy isDigit)

/-- Digits of a class, single underscores between them. -/
def digits (isDigit : Char → Bool) : Scan (List Char) := do
  let first ← satisfy isDigit
  return first :: (← moreDigits isDigit)

/-- The digits of a whole number: a zero, or no zero first. -/
def wholeDigits : Scan (List Char) := do
  let first ← satisfy Char.isDigit
  if first == '0' then return [first] else return first :: (← moreDigits Char.isDigit)

/-- The number that digits of a base stand for. -/
def digitsValue (base : Nat) (digits : List Char) : Nat :=
  digits.foldl (fun value c => value * base + hexValue c) 0

/-- A sign, if there is one: whether it is a minus. -/
def sign? : Scan (Option Bool) :=
  optional (satisfy (fun c => c == '+' || c == '-') >>= fun c => return c == '-')

/-- An integer, if it fits. -/
def fitting (value : Int) : Scan Value :=
  if -9223372036854775808 ≤ value && value ≤ 9223372036854775807 then return .integer value
  else failure

/-- An integer in another base. -/
def basedInteger (mark : Char) (base : Nat) (isDigit : Char → Bool) : Scan Value := do
  exactly ['0', mark]
  fitting (digitsValue base (← digits isDigit))

/-- The part after the decimal point. -/
def fraction : Scan (List Char) :=
  char '.' *> digits Char.isDigit

/-- The power of ten after an `e`. -/
def exponent : Scan Int := do
  discard (satisfy fun c => c == 'e' || c == 'E')
  let negative ← sign?
  let magnitude : Int := digitsValue 10 (← digits Char.isDigit)
  return if negative == some true then -magnitude else magnitude

/-- An infinite number or one that is none, by its word. -/
def specialFloat (negative : Bool) : Scan Value :=
  (exactly "inf".toList *> pure (.float (.infinite negative)))
    <|> (exactly "nan".toList *> pure (.float .nan))

/-- A floating point number in digits; too large a positive one is refused. -/
def finiteFloat (negative : Bool) (whole fraction : List Char) (power : Int) : Scan Value :=
  match .ofDecimal negative (digitsValue 10 (whole ++ fraction)) (power - fraction.length) with
  | Decimal.Binary64.infinite false => failure
  | number => return .float number

/-- A decimal number, whole or not. -/
def decimal (negative : Bool) : Scan Value := do
  let whole ← wholeDigits
  let places ← optional fraction
  let power ← optional exponent
  if places.isNone && power.isNone then
    let magnitude : Int := digitsValue 10 whole
    fitting (if negative then -magnitude else magnitude)
  else finiteFloat negative whole (places.getD []) (power.getD 0)

/-- A number of any kind. -/
def number : Scan Value := do
  match ← sign? with
  | some negative => specialFloat negative <|> decimal negative
  | none =>
    basedInteger 'x' 16 isHexDigit
      <|> basedInteger 'o' 8 (fun c => '0' ≤ c && c ≤ '7')
      <|> basedInteger 'b' 2 (fun c => c == '0' || c == '1')
      <|> specialFloat false <|> decimal false

end Scan

end ErrorScaffold.Toml
