/-
Dates and times.

A value is a date, a time, or a date with a time, and the last may have an offset from universal
time.  Every part has a fixed number of digits and a range; the days of a month follow the
calendar.  The value is kept as it was written.
-/
import ErrorScaffold.Toml.Scan
import ErrorScaffold.Toml.Value

namespace ErrorScaffold.Toml

namespace Scan

/-- The number of `count` digits. -/
def fixedDigits : (count : Nat) → (value : Nat := 0) → Scan Nat
  | 0, value => return value
  | count + 1, value => do
    let c ← satisfy Char.isDigit
    fixedDigits count (value * 10 + (c.toNat - '0'.toNat))

/-- A number of two digits within a range. -/
def twoDigits (low high : Nat) : Scan Nat := do
  let value ← fixedDigits 2
  if low ≤ value && value ≤ high then return value else failure

def isLeapYear (year : Nat) : Bool :=
  year % 4 == 0 && (year % 100 != 0 || year % 400 == 0)

/-- The number of days of a month. -/
def daysIn (year month : Nat) : Nat :=
  if month = 2 then if isLeapYear year then 29 else 28
  else if month = 4 ∨ month = 6 ∨ month = 9 ∨ month = 11 then 30
  else 31

def date : Scan Unit := do
  let year ← fixedDigits 4
  char '-'
  let month ← twoDigits 1 12
  char '-'
  discard (twoDigits 1 (daysIn year month))

def time : Scan Unit := do
  discard (twoDigits 0 23)
  char ':'
  discard (twoDigits 0 59)
  char ':'
  discard (twoDigits 0 60)
  discard (optional (char '.' *> takeWhile1 Char.isDigit))

/-- The distance from universal time. -/
def offset : Scan Unit :=
  discard (satisfy fun c => c == 'Z' || c == 'z') <|> do
    discard (satisfy fun c => c == '+' || c == '-')
    discard (twoDigits 0 23)
    char ':'
    discard (twoDigits 0 59)

/-- A date, with a time after it or not. -/
def datedTime : Scan Unit := do
  date
  discard <| optional do
    discard (satisfy fun c => c == 'T' || c == 't' || c == ' ')
    time
    discard (optional offset)

def dateTime : Scan Value := do
  let text ← spelling (datedTime <|> time)
  return .dateTime (String.ofList text)

/-- Whether digits come next that start a date or a time and no number. -/
def opensDateTime : Scan Bool := do
  let text ← get
  let digits := (text.takeWhile Char.isDigit).length
  let mark := (text.drop digits).head?
  return (digits == 4 && mark == some '-') || (digits == 2 && mark == some ':')

end Scan

end ErrorScaffold.Toml
