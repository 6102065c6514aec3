/-
The names that a header shares with the hand-written parser that includes it.

A schema gives each `Schema.Field` a text.  `Schema.check` asks that every text is a usable
identifier; the prefix of the enumerators is no name by itself and only has to become one when a
name is appended to it.
-/
import ErrorScaffold.HeaderError

namespace ErrorScaffold

/-- The configurable names of a header; by default those of the seephit parser. -/
structure Schema where
  /-- The namespace that the header is included into. -/
  namespaceName : String := "spt"
  includeGuard : String := "SEEPHIT_PARSE_ERROR_GENERATED_H"
  /-- The enumeration of the ordinals. -/
  enumName : String := "Messages"
  /-- What every enumerator starts with. -/
  ordinalPrefix : String := "Error_"
  /-- The marker type of "no error". -/
  sentinel : String := "None"
  /-- The template from ordinals to marker types. -/
  mapping : String := "MsgToType"
  reportMacro : String := "REPORT_ERRORS"
  /-- The macro that turns reporting off where it is defined. -/
  debugMacro : String := "SPT_DEBUG"
  /-- The parser's list of warnings. -/
  warningsField : String := "m_arrWarns"
  kindField : String := "m"
  rowField : String := "row"
  colField : String := "col"
  errorRowField : String := "m_iErrRow"
  errorColField : String := "m_iErrCol"
  errorKindField : String := "m_arrErrs"
  warningTemplate : String := "Warning"
  errorTemplate : String := "Error"
  ifTemplate : String := "IF"
  deriving DecidableEq, Repr

namespace Schema

/-- The text of a field. -/
def get (s : Schema) : Field → String
  | .namespaceName => s.namespaceName
  | .includeGuard => s.includeGuard
  | .enumName => s.enumName
  | .ordinalPrefix => s.ordinalPrefix
  | .sentinel => s.sentinel
  | .mapping => s.mapping
  | .reportMacro => s.reportMacro
  | .debugMacro => s.debugMacro
  | .warningsField => s.warningsField
  | .kindField => s.kindField
  | .rowField => s.rowField
  | .colField => s.colField
  | .errorRowField => s.errorRowField
  | .errorColField => s.errorColField
  | .errorKindField => s.errorKindField
  | .warningTemplate => s.warningTemplate
  | .errorTemplate => s.errorTemplate
  | .ifTemplate => s.ifTemplate

/-- The schema with another text in one field. -/
def set (s : Schema) (field : Field) (text : String) : Schema :=
  match field with
  | .namespaceName => { s with namespaceName := text }
  | .includeGuard => { s with includeGuard := text }
  | .enumName => { s with enumName := text }
  | .ordinalPrefix => { s with ordinalPrefix := text }
  | .sentinel => { s with sentinel := text }
  | .mapping => { s with mapping := text }
  | .reportMacro => { s with reportMacro := text }
  | .debugMacro => { s with debugMacro := text }
  | .warningsField => { s with warningsField := text }
  | .kindField => { s with kindField := text }
  | .rowField => { s with rowField := text }
  | .colField => { s with colField := text }
  | .errorRowField => { s with errorRowField := text }
  | .errorColField => { s with errorColField := text }
  | .errorKindField => { s with errorKindField := text }
  | .warningTemplate => { s with warningTemplate := text }
  | .errorTemplate => { s with errorTemplate := text }
  | .ifTemplate => { s with ifTemplate := text }

/-- What a field reads after it was set, and that the others stay. -/
@[simp] theorem get_set (s : Schema) (field other : Field) (text : String) :
    (s.set field text).get other = if other = field then text else s.get other := by
  cases field <;> cases other <;> rfl

/-- A schema is known by its fields. -/
theorem ext_get {s s' : Schema} (h : ∀ field, s.get field = s'.get field) : s = s' := by
  cases s
  cases s'
  simp only [mk.injEq]
  exact ⟨h .namespaceName, h .includeGuard, h .enumName, h .ordinalPrefix, h .sentinel, h .mapping,
    h .reportMacro, h .debugMacro, h .warningsField, h .kindField, h .rowField, h .colField,
    h .errorRowField, h .errorColField, h .errorKindField, h .warningTemplate, h .errorTemplate,
    h .ifTemplate⟩

/-! ### Checking -/

/-- The fields whose names the header declares or uses at namespace scope; no marker type may be
called like one of them. -/
def takenFields : List Field :=
  [.namespaceName, .includeGuard, .enumName, .sentinel, .mapping, .reportMacro, .debugMacro,
    .warningTemplate, .errorTemplate, .ifTemplate]

/-- The members of the parser and of its warnings. -/
def memberFields : List Field :=
  [.warningsField, .kindField, .rowField, .colField, .errorRowField, .errorColField]

/-- The order in which the fields are checked. -/
def checkedFields : List Field :=
  takenFields ++ memberFields ++ [.errorKindField, .ordinalPrefix]

/-- The names that no marker type may have, with their fields. -/
def takenNames (s : Schema) : List (Field × String) :=
  takenFields.map fun field => (field, s.get field)

/-- What is wrong with the text of a field.  The enumerators' prefix is tried with one letter
after it; an empty one would give enumerators and marker types the same names. -/
def fieldDefect? (s : Schema) : Field → Option NameDefect
  | .ordinalPrefix =>
    if s.ordinalPrefix.isEmpty then some .empty
    else Identifier.defect? (s.ordinalPrefix ++ "x")
  | field => Identifier.defect? (s.get field)

/-- The first field that cannot be used, as an error. -/
def error? (s : Schema) : Option HeaderError :=
  checkedFields.findSome? fun field =>
    (s.fieldDefect? field).map (.unusableField field (s.get field))

def check (s : Schema) : Except HeaderError Unit :=
  match s.error? with
  | some error => .error error
  | none => .ok ()

/-! ### Names made from the schema -/

/-- A name with the namespace in front. -/
def inScope (s : Schema) (name : String) : String :=
  s.namespaceName ++ "::" ++ name

/-- The enumerator of a marker type. -/
def enumerator (s : Schema) (marker : String) : String :=
  s.ordinalPrefix ++ marker

end Schema

end ErrorScaffold
