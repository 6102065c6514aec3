/-
The eighteen configurable names of a header, as an enumeration.

A field has the key it goes by in a configuration and in messages; `Schema.Field.all` lists the
fields in the order in which they are declared.
-/

namespace ErrorScaffold.Schema

/-- One configurable name. -/
inductive Field
  | namespaceName
  | includeGuard
  | enumName
  | ordinalPrefix
  | sentinel
  | mapping
  | reportMacro
  | debugMacro
  | warningsField
  | kindField
  | rowField
  | colField
  | errorRowField
  | errorColField
  | errorKindField
  | warningTemplate
  | errorTemplate
  | ifTemplate
  deriving DecidableEq, Repr

namespace Field

/-- Every field, in the order of declaration. -/
def all : List Field :=
  [.namespaceName, .includeGuard, .enumName, .ordinalPrefix, .sentinel, .mapping, .reportMacro,
    .debugMacro, .warningsField, .kindField, .rowField, .colField, .errorRowField,
    .errorColField, .errorKindField, .warningTemplate, .errorTemplate, .ifTemplate]

/-- The key of a field. -/
def key : Field → String
  | .namespaceName => "namespace"
  | .includeGuard => "include_guard"
  | .enumName => "enum_name"
  | .ordinalPrefix => "ordinal_prefix"
  | .sentinel => "sentinel"
  | .mapping => "mapping"
  | .reportMacro => "report_macro"
  | .debugMacro => "debug_macro"
  | .warningsField => "warnings_field"
  | .kindField => "kind_field"
  | .rowField => "row_field"
  | .colField => "col_field"
  | .errorRowField => "error_row_field"
  | .errorColField => "error_col_field"
  | .errorKindField => "error_kind_field"
  | .warningTemplate => "warning_template"
  | .errorTemplate => "error_template"
  | .ifTemplate => "if_template"

/-- The field of a key. -/
def ofKey? (key : String) : Option Field :=
  all.find? fun field => field.key == key

end Field

end ErrorScaffold.Schema
