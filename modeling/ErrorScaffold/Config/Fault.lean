/-
What can be wrong with a document that is well formed and still no configuration.
-/
import ErrorScaffold.Decimal.Shortest
import ErrorScaffold.Text.Quoted
import ErrorScaffold.Toml.Value

namespace ErrorScaffold

namespace Toml

/-- What a message calls a value.  A date counts as a table. -/
def Value.description : Value → String
  | .string text => "string " ++ Text.quoteText text
  | .integer value => "integer `" ++ toString value ++ "`"
  | .float value => "floating point `" ++ value.text ++ "`"
  | .boolean value => "boolean `" ++ (if value then "true" else "false") ++ "`"
  | .dateTime _ => "map"
  | .array _ => "sequence"
  | .table _ => "map"

end Toml

/-- What a place in a configuration asks for. -/
inductive Config.Expected
  | text
  | count
  | list
  | catalog
  | schema
  deriving DecidableEq, Repr

def Config.Expected.description : Config.Expected → String
  | text => "a string"
  | count => "usize"
  | list => "a sequence"
  | catalog => "struct CatalogConfig"
  | schema => "struct Schema"

/-- Why a document is no configuration. -/
inductive Config.Fault
  /-- A key that its table does not know, with the keys it knows. -/
  | unknownField (key : String) (known : List String)
  | missingField (key : String)
  | wrongType (found : Toml.Value) (expected : Config.Expected)
  /-- A number below zero where a count is asked for. -/
  | negative (value : Int)
  /-- An array that is too short to stand for a table of `fields` fields. -/
  | tooShort (length : Nat) (expected : Config.Expected) (fields : Nat)

namespace Config.Fault

/-- The known keys of a table in a message: two with "or", more as a list. -/
def knownKeys (known : List String) : String :=
  let quoted := known.map fun key => "`" ++ key ++ "`"
  match quoted with
  | [first, second] => first ++ " or " ++ second
  | _ => "one of " ++ ", ".intercalate quoted

def message : Config.Fault → String
  | unknownField key known => "unknown field `" ++ key ++ "`, expected " ++ knownKeys known
  | missingField key => "missing field `" ++ key ++ "`"
  | wrongType found expected =>
    "invalid type: " ++ found.description ++ ", expected " ++ expected.description
  | negative value =>
    "invalid value: integer `" ++ toString value ++ "`, expected " ++ Expected.count.description
  | tooShort length expected fields =>
    "invalid length " ++ toString length ++ ", expected " ++ expected.description ++ " with "
      ++ toString fields ++ " elements"

end Config.Fault

end ErrorScaffold
