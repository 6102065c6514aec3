/-
Strings and keys.

A basic string stands between double quotes and knows escapes, a literal one between apostrophes
and knows none; either may stand between three of them and then spans lines.  A key is a string on
one line or a bare word, and a dotted key is a path of such keys.
-/
import ErrorScaffold.Toml.Scan

namespace ErrorScaffold.Toml

namespace Scan

/-! ### Escapes -/

/-- The value of a hexadecimal digit. -/
def hexValue (c : Char) : Nat :=
  if c.isDigit then c.toNat - '0'.toNat
  else if c.isLower then c.toNat - 'a'.toNat + 10
  else c.toNat - 'A'.toNat + 10

def isHexDigit (c : Char) : Bool :=
  c.isDigit || ('a' ≤ c && c ≤ 'f') || ('A' ≤ c && c ≤ 'F')

/-- The value of `count` hexadecimal digits. -/
def hexCode : (count : Nat) → (value : Nat := 0) → Scan Nat
  | 0, value => return value
  | count + 1, value => do hexCode count (value * 16 + hexValue (← satisfy isHexDigit))

/-- The character of a code point of `count` digits, which is no surrogate. -/
def unicode (count : Nat) : Scan Char := do
  let code ← hexCode count
  if code.isValidChar then return Char.ofNat code else failure

/-- A character written as an escape. -/
def escape : Scan Char := do
  char '\\'
  match ← satisfy fun _ => true with
  | 'b' => return '\x08'
  | 't' => return '\t'
  | 'n' => return '\n'
  | 'f' => return '\x0c'
  | 'r' => return '\r'
  | '"' => return '"'
  | '\\' => return '\\'
  | 'u' => unicode 4
  | 'U' => unicode 8
  | _ => failure

/-! ### Strings on one line -/

/-- A character that stands for itself in a basic string. -/
def isBasicChar (c : Char) : Bool :=
  isCommentChar c && c != '\x22' && c != '\\'

/-- A character that stands for itself in a literal string. -/
def isLiteralChar (c : Char) : Bool :=
  isCommentChar c && c != '\x27'

def basicString : Scan (List Char) := do
  char '\x22'
  let parts ← many (takeWhile1 isBasicChar <|> List.singleton <$> escape)
  char '\x22'
  return parts.flatten

def literalString : Scan (List Char) := do
  char '\x27'
  let text ← takeWhile isLiteralChar
  char '\x27'
  return text

/-! ### Strings over several lines -/

/-- One or two quotation marks inside a string that three close. -/
def innerQuotes (quote : Char) : Scan (List Char) := do
  let quotes ← takeWhile1 (· == quote)
  if quotes.length < 3 then return quotes else failure

/-- The quotation marks that close a string: three, and before them up to two that belong to it. -/
def closingQuotes (quote : Char) : Scan (List Char) := do
  let quotes ← takeWhile (· == quote)
  if 3 ≤ quotes.length && quotes.length ≤ 5 then return quotes.drop 3 else failure

/-- A backslash at the end of a line, with all blanks and line ends after it. -/
def lineContinuation : Scan (List Char) := do
  char '\\'
  space
  newline
  discard (many (discard (takeWhile1 fun c => c == ' ' || c == '\t') <|> newline))
  return []

/-- A string between three quotation marks.  A line end right after the opening ones does not
belong to it. -/
def multilineString (quote : Char) (part : Scan (List Char)) : Scan (List Char) := do
  exactly [quote, quote, quote]
  discard (optional newline)
  let parts ← many (part <|> innerQuotes quote <|> (newline *> pure ['\n']))
  let last ← closingQuotes quote
  return parts.flatten ++ last

def multilineBasicString : Scan (List Char) :=
  multilineString '\x22'
    (takeWhile1 isBasicChar <|> lineContinuation <|> List.singleton <$> escape)

def multilineLiteralString : Scan (List Char) :=
  multilineString '\x27' (takeWhile1 isLiteralChar)

/-- Whether three of a quotation mark come next. -/
def opensMultiline (quote : Char) : Scan Bool :=
  return [quote, quote, quote].isPrefixOf (← get)

/-- A string of any of the four kinds. -/
def string : Scan String := do
  if ← opensMultiline '\x22' then String.ofList <$> multilineBasicString
  else if ← opensMultiline '\x27' then String.ofList <$> multilineLiteralString
  else String.ofList <$> (basicString <|> literalString)

/-! ### Keys -/

/-- A character of a bare key. -/
def isBareChar (c : Char) : Bool :=
  c.isAlphanum || c == '-' || c == '_'

def simpleKey : Scan String :=
  String.ofList <$> (basicString <|> literalString <|> takeWhile1 isBareChar)

/-- The number of keys from which on a path is refused. -/
def pathLimit : Nat := 80

/-- A path of keys with points between them, and blanks around each. -/
def keyPath : Scan (List String) := do
  let path ← separatedBy1 (space *> simpleKey <* space) (char '.')
  if path.length < pathLimit then return path else failure

end Scan

end ErrorScaffold.Toml
