/-
The tag names in a reference page.

The names stand in the `code` elements of the links of the standard tables, written as
`&lt;name&gt;`.  A cell may hold several: the decoded text is cut at every `>`, and of each piece
what follows its last `<` is a name, unless it is empty.
-/
import ErrorScaffold.Page.Entity
import ErrorScaffold.Page.Table

namespace ErrorScaffold.Page

/-- What follows the last occurrence of `c` in a text, or the text if `c` is not in it. -/
def afterLast (c : Char) (text : List Char) : List Char :=
  ((text.reverse).takeWhile fun d => d != c).reverse

/-- The names in the text of one `code` element. -/
def namesInCode (code : List Char) : List (List Char) :=
  (((unescape code).splitOn '>').map (afterLast '<')).filter fun name => !name.isEmpty

/-- The names in a page, in order and with repetitions. -/
def tagNameChars (page : List Char) : List (List Char) :=
  (standardTables page).flatMap fun table =>
    (elements "a".toList table).flatMap fun link =>
      (elements "code".toList link).flatMap namesInCode

/-- The names in a page, in order and with repetitions. -/
def tagNames (page : String) : List String :=
  (tagNameChars page.toList).map String.ofList

end ErrorScaffold.Page
