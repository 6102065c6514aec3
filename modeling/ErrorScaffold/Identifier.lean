/-
Names that can stand verbatim as a C++ type or enumerator.

`Identifier.check` accepts the ASCII identifiers that are neither keywords nor reserved to the
implementation, and otherwise names the first thing wrong with the text: it is empty, starts or
goes on with a character that cannot stand there, is a keyword, or is reserved.
-/
import ErrorScaffold.Text.Quoted

namespace ErrorScaffold

/-- Why a name is refused. -/
inductive NameDefect
  | empty
  | illegalStart
  | illegalCharacter (c : Char)
  | keyword
  | reserved
  /-- The header declares the name, or the enumerator made from it, for something else. -/
  | taken
  deriving DecidableEq, Repr

def NameDefect.message : NameDefect → String
  | .empty => "name is empty"
  | .illegalStart => "must start with a letter or '_'"
  | .illegalCharacter c => "character " ++ Text.quoteChar c ++ " is not allowed"
  | .keyword => "is a C++ keyword"
  | .reserved => "is a reserved identifier"
  | .taken => "clashes with a generated identifier"

namespace Identifier

/-- The keywords and alternative tokens of C++20. -/
def keywords : List String :=
  ["alignas", "alignof", "and", "and_eq", "asm", "auto", "bitand", "bitor", "bool", "break",
    "case", "catch", "char", "char8_t", "char16_t", "char32_t", "class", "compl", "concept",
    "const", "consteval", "constexpr", "constinit", "const_cast", "continue", "co_await",
    "co_return", "co_yield", "decltype", "default", "delete", "do", "double", "dynamic_cast",
    "else", "enum", "explicit", "export", "extern", "false", "float", "for", "friend", "goto",
    "if", "inline", "int", "long", "mutable", "namespace", "new", "noexcept", "not", "not_eq",
    "nullptr", "operator", "or", "or_eq", "private", "protected", "public", "register",
    "reinterpret_cast", "requires", "return", "short", "signed", "sizeof", "static",
    "static_assert", "static_cast", "struct", "switch", "template", "this", "thread_local",
    "throw", "true", "try", "typedef", "typeid", "typename", "union", "unsigned", "using",
    "virtual", "void", "volatile", "wchar_t", "while", "xor", "xor_eq"]

/-- ASCII letters and the underscore. -/
def isStart (c : Char) : Bool :=
  c.isAlpha || c == '_'

/-- ASCII letters, digits and the underscore. -/
def isPart (c : Char) : Bool :=
  c.isAlphanum || c == '_'

/-- Two underscores stand next to each other. -/
def hasDoubleUnderscore : List Char → Bool
  | c :: d :: rest => (c == '_' && d == '_') || hasDoubleUnderscore (d :: rest)
  | _ => false

/-- An underscore and then an uppercase letter come first. -/
def startsUnderscoreUpper : List Char → Bool
  | c :: d :: _ => c == '_' && d.isUpper
  | _ => false

/-- Reserved to the implementation at every scope, or at namespace scope. -/
def isReserved (chars : List Char) : Bool :=
  hasDoubleUnderscore chars || startsUnderscoreUpper chars

/-- The first thing wrong with a name, if there is one. -/
def defect? (name : String) : Option NameDefect :=
  match name.toList with
  | [] => some .empty
  | first :: rest =>
    if !isStart first then some .illegalStart
    else
      match rest.find? fun c => !isPart c with
      | some c => some (.illegalCharacter c)
      | none =>
        if name ∈ keywords then some .keyword
        else if isReserved (first :: rest) then some .reserved
        else none

/-- Whether a name can be used as it is. -/
def check (name : String) : Except NameDefect Unit :=
  match defect? name with
  | some defect => .error defect
  | none => .ok ()

end Identifier

end ErrorScaffold
