/-
Reading a text from the front.

A scan takes what it reads from a text and gives back the rest, or fails and takes nothing.  The
alternatives of the grammar are told apart by what comes next, so a scan never needs to say that
another alternative must not be tried any more.

* `Scan.many` — as often as possible; it ends because every round has to leave less text.
-/
import ErrorScaffold.Text.Split

namespace ErrorScaffold.Toml

/-- Reads an `α` from the front of a text. -/
abbrev Scan := StateT (List Char) Option

namespace Scan

/-- One character of a class. -/
def satisfy (p : Char → Bool) : Scan Char := do
  match ← get with
  | c :: rest => if p c then set rest; return c else failure
  | [] => failure

/-- One given character. -/
def char (c : Char) : Scan Unit :=
  discard (satisfy (· == c))

/-- A given text. -/
def exactly (text : List Char) : Scan Unit := do
  match text.isPrefixOf? (← get) with
  | some rest => set rest
  | none => failure

/-- The longest run of characters of a class. -/
def takeWhile (p : Char → Bool) : Scan (List Char) := do
  let text ← get
  set (text.dropWhile p)
  return text.takeWhile p

/-- The longest run of characters of a class, of which there is at least one. -/
def takeWhile1 (p : Char → Bool) : Scan (List Char) := do
  let run ← takeWhile p
  if run.isEmpty then failure else return run

/-- The end of the text. -/
def atEnd : Scan Unit := do
  if (← get).isEmpty then return else failure

/-- What was read, as it was written. -/
def spelling (p : Scan α) : Scan (List Char) := do
  let before ← get
  discard p
  let after ← get
  return before.take (before.length - after.length)

/-- The results of `p` from the front of a text, as many as there are, and the rest.  A round that
takes nothing is the last. -/
def manyFrom (p : Scan α) (text : List Char) : List α × List Char :=
  match p.run text with
  | none => ([], text)
  | some (a, rest) =>
    if rest.length < text.length then
      let more := manyFrom p rest
      (a :: more.1, more.2)
    else ([a], rest)
termination_by text.length

/-- As many results of `p` as there are. -/
def many (p : Scan α) : Scan (List α) := do
  let (results, rest) := manyFrom p (← get)
  set rest
  return results

/-- One result of `p` at least, with `separator` between every two. -/
def separatedBy1 (p : Scan α) (separator : Scan Unit) : Scan (List α) := do
  let first ← p
  let others ← many (separator *> p)
  return first :: others

/-- Blanks within a line. -/
def space : Scan Unit :=
  discard (takeWhile fun c => c == ' ' || c == '\t')

/-- The end of a line. -/
def newline : Scan Unit :=
  exactly ['\n'] <|> exactly ['\r', '\n']

/-- A character that may stand in a comment: no control but the tab. -/
def isCommentChar (c : Char) : Bool :=
  c == '\t' || (0x20 ≤ c.toNat && c.toNat != 0x7F)

/-- A comment up to the end of its line. -/
def comment : Scan Unit := do
  char '#'
  discard (takeWhile isCommentChar)

/-- Blanks, comments and line ends between the elements of an array. -/
def blank : Scan Unit :=
  discard <| many <|
    discard (takeWhile1 fun c => c == ' ' || c == '\t') <|> newline <|> (comment *> newline)

end Scan

end ErrorScaffold.Toml
