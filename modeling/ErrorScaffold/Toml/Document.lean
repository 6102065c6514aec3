/-
Documents: from a text to the entries of the root table.

A document is a sequence of statements, one a line: a pair of a key and a value, or a header.  The
statements up to the first header belong to the root, and those after a header to the table it
opens.  `parse?` fails on a text that breaks the grammar as well as on one that defines a key
twice.
-/
import ErrorScaffold.Toml.DateTime
import ErrorScaffold.Toml.Draft
import ErrorScaffold.Toml.Number

namespace ErrorScaffold.Toml

/-- A key, by its path, and its value. -/
abbrev Pair := List String × Value

namespace Scan

/-! ### Values -/

/-- A value that holds no others. -/
def scalar : Scan Value := do
  if ← opensDateTime then dateTime
  else
    (.string <$> string)
      <|> (exactly "true".toList *> pure (.boolean true))
      <|> (exactly "false".toList *> pure (.boolean false))
      <|> number

/-- An array; a comma may follow the last element. -/
def arrayOf (element : Scan Value) : Scan Value := do
  char '['
  blank
  let elements ← optional (separatedBy1 (element <* blank) (char ',' *> blank))
  if elements.isSome then discard (optional (char ',' *> blank))
  char ']'
  return .array (elements.getD [])

/-- A pair, with blanks around the key. -/
def pairOf (value : Scan Value) : Scan Pair := do
  let path ← keyPath
  char '='
  space
  return (path, ← value)

/-- A table in braces on one line. -/
def tableOf (value : Scan Value) : Scan Value := do
  char '\x7b'
  let pairs ← optional (separatedBy1 (pairOf value <* space) (char ','))
  space
  char '\x7d'
  match Draft.insertAll? [] (pairs.getD []) with
  | some entries => return .table (Draft.entriesToTable entries)
  | none => failure

/-- A value in which arrays and tables stand within each other `depth` times at most. -/
def value : (depth : Nat) → Scan Value
  | 0 => scalar
  | depth + 1 => scalar <|> arrayOf (value depth) <|> tableOf (value depth)

/-- How many times arrays and tables may stand within each other. -/
def depthLimit : Nat := 79

end Scan

/-! ### Statements -/

/-- A line of a document. -/
inductive Statement
  | pair (p : Pair)
  | tableHeader (path : List String)
  | elementHeader (path : List String)

namespace Scan

/-- A header between double brackets, which stand next to each other. -/
def elementHeader : Scan Statement := do
  exactly ['[', '[']
  let path ← keyPath
  exactly [']', ']']
  return .elementHeader path

def tableHeader : Scan Statement := do
  char '['
  let path ← keyPath
  char ']'
  return .tableHeader path

def statement : Scan Statement :=
  elementHeader <|> tableHeader <|> Statement.pair <$> pairOf (value depthLimit)

/-- The end of a line or of the document. -/
def lineEnd : Scan Unit :=
  newline <|> atEnd

/-- A line: a comment, nothing, or a statement with perhaps a comment after it. -/
def line : Scan (Option Statement) := do
  space
  (comment *> lineEnd *> pure none) <|> (newline *> pure none) <|> do
    let s ← statement
    space
    discard (optional comment)
    lineEnd
    return some s

/-- All lines, after a byte order mark if there is one. -/
def document : Scan (List Statement) := do
  discard (optional (char '\ufeff'))
  let lines ← many line
  space
  atEnd
  return lines.filterMap id

end Scan

/-! ### Sections -/

/-- A header and the pairs after it. -/
structure Section where
  /-- Whether the header adds a table to an array. -/
  isElement : Bool
  path : List String
  pairs : List Pair

/-- The pairs before the first header, and the sections. -/
def Statement.sections : List Statement → List Pair × List Section
  | [] => ([], [])
  | .pair p :: rest =>
    let (pairs, found) := sections rest
    (p :: pairs, found)
  | .tableHeader path :: rest =>
    let (pairs, found) := sections rest
    ([], ⟨false, path, pairs⟩ :: found)
  | .elementHeader path :: rest =>
    let (pairs, found) := sections rest
    ([], ⟨true, path, pairs⟩ :: found)

/-- Adds a section to the tables so far. -/
def Section.addTo? (root : Draft.Entries) (s : Section) : Option Draft.Entries :=
  if s.isElement then Draft.openElement? root s.path s.pairs
  else Draft.openTable? root s.path s.pairs

/-- The root table of a document, unless the text is none. -/
def parse? (text : String) : Option Table := do
  let (statements, _) ← Scan.document.run text.toList
  let (pairs, sections) := Statement.sections statements
  let root ← Draft.insertAll? [] pairs
  let root ← sections.foldlM Section.addTo? root
  return Draft.entriesToTable root

end ErrorScaffold.Toml
