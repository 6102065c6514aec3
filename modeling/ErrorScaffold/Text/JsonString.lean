/-
Strings in JSON output.

The quotation mark, the backslash and the controls below the space are escaped, five of the
controls by a letter and the others by four hexadecimal digits; every other character stands as
it is.
-/

namespace ErrorScaffold.Text

/-- One character of a JSON string. -/
def jsonChar (c : Char) : String :=
  if c == '\x22' then "\\\""
  else if c == '\\' then "\\\\"
  else if c == '\x08' then "\\b"
  else if c == '\t' then "\\t"
  else if c == '\n' then "\\n"
  else if c == '\x0c' then "\\f"
  else if c == '\r' then "\\r"
  else if c.toNat < 0x20 then
    let digits := Nat.toDigits 16 c.toNat
    "\\u" ++ String.ofList (List.replicate (4 - digits.length) '0' ++ digits)
  else c.toString

/-- A JSON string. -/
def jsonString (text : String) : String :=
  "\"" ++ String.join (text.toList.map jsonChar) ++ "\""

end ErrorScaffold.Text
