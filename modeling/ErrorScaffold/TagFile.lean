/-
The header of tag names that the parser recognises.

A tag file is the set of the names it was made from, less the entry that the reference lists as a
range, with the six heading tags that the range stands for; the names are kept in increasing order
of their code points.
-/

namespace ErrorScaffold

/-- Sorted tag names, each once. -/
structure TagFile where
  tags : List String
  deriving DecidableEq, Repr

namespace TagFile

/-- The entry that the reference lists as a range. -/
def headingRange : String := "h1–h6"

/-- The tags that the range stands for. -/
def headings : List String := ["h1", "h2", "h3", "h4", "h5", "h6"]

/-- Puts a name into a sorted list, unless it is there. -/
def insert (name : String) : List String → List String
  | [] => [name]
  | tag :: tags =>
    if name < tag then name :: tag :: tags
    else if name = tag then tag :: tags
    else tag :: insert name tags

/-- A name of the reference that is a tag. -/
def isTag (name : String) : Bool :=
  !name.isEmpty && name != headingRange

/-- The tag file of the names in a reference. -/
def ofNames (names : List String) : TagFile :=
  ⟨(names.filter isTag ++ headings).foldr insert []⟩

/-- The line of one tag. -/
def tagLine (tag : String) : String :=
  "  \"" ++ tag ++ "\",\n"

/-- The text of the header. -/
def render (f : TagFile) : String :=
  "#ifndef SEE_PHIT_TAGS_HPP\n#define SEE_PHIT_TAGS_HPP\n\nconstexpr const char *tags[] = \x7b\n"
    ++ String.join (f.tags.map tagLine) ++ "\x7d;\n\n#endif\n"

end TagFile

end ErrorScaffold
