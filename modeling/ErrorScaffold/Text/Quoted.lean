/-
Names shown between quotes in a message.

A quoted text stays on one line and shows nothing invisible: the usual controls have their own
escapes, the delimiter and the backslash are preceded by a backslash, and every other character
that is not printable is written by its code point in hexadecimal, `\u{..}`.
-/
import ErrorScaffold.Text.Printable

namespace ErrorScaffold.Text

/-- The code point of `c` in hexadecimal, as an escape. -/
def codePointEscape (c : Char) : String :=
  "\\u\x7b" ++ String.ofList (Nat.toDigits 16 c.toNat) ++ "\x7d"

/-- One character of a text that stands between two `delimiter`s. -/
def escapeChar (delimiter c : Char) : String :=
  if c == '\x00' then "\\0"
  else if c == '\t' then "\\t"
  else if c == '\r' then "\\r"
  else if c == '\n' then "\\n"
  else if c == '\\' || c == delimiter then String.ofList ['\\', c]
  else if isPrintable c then c.toString
  else codePointEscape c

/-- A text between double quotes. -/
def quoteText (text : String) : String :=
  "\"" ++ String.join (text.toList.map (escapeChar '\x22')) ++ "\""

/-- A character between apostrophes. -/
def quoteChar (c : Char) : String :=
  "'" ++ escapeChar '\x27' c ++ "'"

end ErrorScaffold.Text
