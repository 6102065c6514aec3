/-
What can be wrong with a catalog, a schema or a slot budget.

Positions count the entries of a catalog from zero.  Each error has a one-line message, a
diagnostic code and, where there is something to advise, a help text.
-/
import ErrorScaffold.Identifier
import ErrorScaffold.Schema.Field

namespace ErrorScaffold

/-- Why no header can be made. -/
inductive HeaderError
  | duplicateKind (name : String) (first second : Nat)
  | unusableKind (name : String) (position : Nat) (defect : NameDefect)
  | unusableField (field : Schema.Field) (value : String) (defect : NameDefect)
  | noSlots
  deriving DecidableEq, Repr

namespace HeaderError

def message : HeaderError → String
  | duplicateKind name first second =>
    "duplicate error kind '" ++ name ++ "' (entries " ++ toString first ++ " and "
      ++ toString second ++ ")"
  | unusableKind name position defect =>
    "invalid error kind name " ++ Text.quoteText name ++ " at entry " ++ toString position
      ++ ": " ++ defect.message
  | unusableField field value defect =>
    "invalid schema entry " ++ field.key ++ " = " ++ Text.quoteText value ++ ": "
      ++ defect.message
  | noSlots => "slot budget must be at least 1, got 0"

def code : HeaderError → String
  | duplicateKind .. => "sptgen::catalog::duplicate_name"
  | unusableKind .. => "sptgen::catalog::invalid_name"
  | unusableField .. => "sptgen::catalog::invalid_schema"
  | noSlots => "sptgen::catalog::invalid_budget"

def help? : HeaderError → Option String
  | duplicateKind .. =>
    some "Every kind must appear once; the sentinel name is reserved as well."
  | unusableKind .. =>
    some "Names must be plain C++ identifiers: [A-Za-z_][A-Za-z0-9_]*, no keywords."
  | unusableField .. => none
  | noSlots => none

end HeaderError

end ErrorScaffold
