/-
The configuration of a header: its catalog and its schema.

A configuration is a document with two optional tables.  `catalog` holds the kinds and the number
of slots, and `schema` any of the eighteen fields.  An array may stand for a table; its elements
are then the fields in the order in which they are declared.  Entries are taken in the order of the
document, and the first fault is the one that is reported.

* `Config.parse` — from the text of a document;
* `Config.catalog`, `Config.budget`, `Config.usableSchema` — what a header is made from.
-/
import ErrorScaffold.Config.Fault
import ErrorScaffold.UsableSchema
import ErrorScaffold.SystemFault
import ErrorScaffold.Toml.Document

namespace ErrorScaffold

/-- The `catalog` table. -/
structure CatalogTable where
  kinds : List String
  slots : Nat := SlotBudget.defaultSlots
  deriving DecidableEq, Repr

/-- A configuration. -/
structure Config where
  catalogTable : Option CatalogTable := none
  schema : Schema := {}
  deriving DecidableEq, Repr

/-- Why a configuration cannot be read. -/
inductive ConfigError
  | unreadable (path : String) (fault : SystemFault)
  /-- The text breaks the grammar of documents or defines a key twice. -/
  | malformed
  | unfit (fault : Config.Fault)

namespace ConfigError

def message : ConfigError → String
  | unreadable path fault => "failed to read " ++ path ++ ": " ++ fault.message
  | malformed => "invalid configuration: not a well-formed document"
  | unfit fault => "invalid configuration: " ++ fault.message

def code : ConfigError → String
  | unreadable .. => "sptgen::config::io"
  | malformed => "sptgen::config::parse"
  | unfit _ => "sptgen::config::parse"

end ConfigError

namespace Config

/-! ### Values of the right type -/

def text : Toml.Value → Except Fault String
  | .string text => .ok text
  | found => .error (.wrongType found .text)

def count : Toml.Value → Except Fault Nat
  | .integer value => if value < 0 then .error (.negative value) else .ok value.toNat
  | found => .error (.wrongType found .count)

def texts : Toml.Value → Except Fault (List String)
  | .array elements => elements.mapM text
  | found => .error (.wrongType found .list)

/-- The entries that a value has where a table is expected.  A date has one, of a key that no
table knows. -/
def entries? : Toml.Value → Option Toml.Table
  | .table entries => some entries
  | .dateTime text => some [("$__toml_private_datetime", .string text)]
  | _ => none

end Config

/-! ### The catalog table -/

namespace CatalogTable

open Config

/-- The entries read so far. -/
structure Partial where
  kinds : Option (List String) := none
  slots : Option Nat := none

/-- Takes one entry. -/
def Partial.take (p : Partial) (entry : String × Toml.Value) : Except Fault Partial :=
  match entry.1 with
  | "kinds" => return { p with kinds := ← texts entry.2 }
  | "slots" => return { p with slots := ← count entry.2 }
  | key => .error (.unknownField key ["kinds", "slots"])

/-- The table once all entries are read. -/
def Partial.finish (p : Partial) : Except Fault CatalogTable :=
  match p.kinds with
  | some kinds => .ok ⟨kinds, p.slots.getD SlotBudget.defaultSlots⟩
  | none => .error (.missingField "kinds")

def ofEntries (entries : Toml.Table) : Except Fault CatalogTable := do
  (← entries.foldlM Partial.take {}).finish

/-- The table of an array; what follows the second element does not count. -/
def ofElements : List Toml.Value → Except Fault CatalogTable
  | [] => .error (.tooShort 0 .catalog 2)
  | [kinds] => return { kinds := ← texts kinds }
  | kinds :: slots :: _ => return { kinds := ← texts kinds, slots := ← count slots }

def ofValue (value : Toml.Value) : Except Fault CatalogTable :=
  match value, entries? value with
  | _, some entries => ofEntries entries
  | .array elements, none => ofElements elements
  | found, none => .error (.wrongType found .catalog)

end CatalogTable

/-! ### The schema table -/

namespace Schema

open Config

/-- Takes one entry. -/
def takeEntry (s : Schema) (entry : String × Toml.Value) : Except Fault Schema :=
  match Field.ofKey? entry.1 with
  | some field => return s.set field (← text entry.2)
  | none => .error (.unknownField entry.1 (Field.all.map Field.key))

/-- Takes one element of an array that stands for the table. -/
def takeElement (s : Schema) (element : Field × Toml.Value) : Except Fault Schema :=
  return s.set element.1 (← text element.2)

def ofValue (value : Toml.Value) : Except Fault Schema :=
  match value, entries? value with
  | _, some entries => entries.foldlM takeEntry {}
  | .array elements, none => (Field.all.zip elements).foldlM takeElement {}
  | found, none => .error (.wrongType found .schema)

end Schema

/-! ### The configuration -/

namespace Config

/-- Takes one entry of the document. -/
def takeEntry (c : Config) (entry : String × Toml.Value) : Except Fault Config :=
  match entry.1 with
  | "catalog" => return { c with catalogTable := ← CatalogTable.ofValue entry.2 }
  | "schema" => return { c with schema := ← Schema.ofValue entry.2 }
  | key => .error (.unknownField key ["catalog", "schema"])

/-- The configuration of a document. -/
def ofDocument (document : Toml.Table) : Except Fault Config :=
  document.foldlM takeEntry {}

/-- The configuration of a text. -/
def parse (text : String) : Except ConfigError Config :=
  match Toml.parse? text with
  | some document => (ofDocument document).mapError .unfit
  | none => .error .malformed

/-- The catalog, by default the built-in one. -/
def catalog (c : Config) : Except HeaderError Catalog :=
  match c.catalogTable with
  | some table => Catalog.ofNames table.kinds
  | none => .ok .seephit

/-- The slot budget; `override?` counts before the configuration. -/
def budget (c : Config) (override? : Option Nat) : Except HeaderError SlotBudget :=
  let configured := (c.catalogTable.map (·.slots)).getD SlotBudget.defaultSlots
  SlotBudget.ofNat (override?.getD configured)

/-- The schema, once it is checked. -/
def usableSchema (c : Config) : Except HeaderError UsableSchema :=
  UsableSchema.ofSchema c.schema

end Config

end ErrorScaffold
