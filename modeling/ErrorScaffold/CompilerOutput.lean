/-
Shortening what a compiler says about a failed report.

A fatal report shows in the compiler's output as `ParseError(… "message")` and, anywhere after it,
as an array subscript whose value is the line.  `CompilerOutput.shorten` keeps the message and the
line.  Where a text has several candidates, the first `ParseError(` that works is taken, of its
quotation marks the last on the line that works, of the closing ones again the last, and of the
subscripts the last of all.
-/
import ErrorScaffold.Text.Split

namespace ErrorScaffold.CompilerOutput

/-- What stands before the value of a subscript. -/
def subscriptNote : List Char := "array subscript value '".toList

/-- What opens a report. -/
def reportNote : List Char := "ParseError(".toList

/-- What closes the message of a report. -/
def messageEnd : List Char := "\")".toList

/-- The digits of a subscript note at the start of a text. -/
def subscript? (text : List Char) : Option (List Char) := do
  let value ← subscriptNote.isPrefixOf? text
  let digits := value.takeWhile Char.isDigit
  if digits.isEmpty || (value.dropWhile Char.isDigit).head? != some '\x27' then none
  else some digits

/-- The text before the last subscript note, and the note's digits. -/
def splitAtLastSubscript? : List Char → Option (List Char × List Char)
  | [] => none
  | c :: rest =>
    match splitAtLastSubscript? rest with
    | some (before, digits) => some (c :: before, digits)
    | none => (subscript? (c :: rest)).map fun digits => ([], digits)

/-- What the rest of a line holds. -/
structure LineEnd where
  /-- Its longest non-empty start that `")` follows. -/
  message? : Option (List Char)
  /-- The message after the last quotation mark that one can follow. -/
  quoted? : Option (List Char)

/-- What a text holds up to the end of its first line, in one pass from the back. -/
def lineEnd : List Char → LineEnd
  | [] => ⟨none, none⟩
  | c :: rest =>
    let after := lineEnd rest
    if c == '\n' then ⟨none, none⟩
    else
      { message? :=
          match after.message? with
          | some message => some (c :: message)
          | none => (messageEnd.isPrefixOf? rest).map fun _ => [c]
        quoted? :=
          match after.quoted? with
          | some message => some message
          | none => if c == '\x22' then after.message? else none }

/-- The message after the last quotation mark on the first line that one can follow. -/
def quotedMessage? (text : List Char) : Option (List Char) :=
  (lineEnd text).quoted?

/-- The message of the first report. -/
def reportedMessage? : List Char → Option (List Char)
  | [] => none
  | c :: rest =>
    match (reportNote.isPrefixOf? (c :: rest)).bind quotedMessage? with
    | some message => some message
    | none => reportedMessage? rest

/-- The message and the line of a report, if the text has both. -/
def extract? (text : List Char) : Option (List Char × List Char) := do
  let (before, line) ← splitAtLastSubscript? text
  let message ← reportedMessage? before
  return (message, line)

/-- The message and the line on one line, or the text as it is. -/
def shorten (raw : String) : String :=
  match extract? raw.toList with
  | some (message, line) => String.ofList message ++ " at line: " ++ String.ofList line
  | none => raw

end ErrorScaffold.CompilerOutput
