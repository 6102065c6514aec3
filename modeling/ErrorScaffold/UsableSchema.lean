/-
From a catalog to its header.

A usable schema is one whose fields have all been checked.  It refuses a catalog whose kinds clash
with what the header declares already, or have enumerators that are no identifiers; otherwise the
header is `Header.build`.  The kinds are all that is checked here: the enumerator of the sentinel
is what the fields of the schema make it.
-/
import ErrorScaffold.Header

namespace ErrorScaffold

/-- A schema whose names can all be used. -/
structure UsableSchema where
  schema : Schema
  usable : schema.error? = none

namespace UsableSchema

/-- The schema, if it is usable, or what is wrong with it. -/
def ofSchema (s : Schema) : Except HeaderError UsableSchema :=
  match usable : s.error? with
  | some error => .error error
  | none => .ok ⟨s, usable⟩

/-- The default schema. -/
def standard : UsableSchema :=
  ⟨{}, by decide +kernel⟩

/-- The enumerators of a catalog, the sentinel's first. -/
def enumerators (u : UsableSchema) (c : Catalog) : List String :=
  c.entries.map fun entry => u.schema.enumerator (entry.2.name u.schema.sentinel)

/-- A kind clashes when its marker type would be called like an enumerator, or when its marker
type or its enumerator is called like something that the schema puts at namespace scope: an
enumerator hides a type of the same name. -/
def clashes (u : UsableSchema) (c : Catalog) (name : String) : Bool :=
  let enumerator := u.schema.enumerator name
  (u.enumerators c).contains name
    || u.schema.takenNames.any fun (_, used) => used == name || used == enumerator

/-- What is wrong with a kind in this header. -/
def kindDefect? (u : UsableSchema) (c : Catalog) (name : String) : Option NameDefect :=
  if u.clashes c name then some .taken
  else Identifier.defect? (u.schema.enumerator name)

/-- The first kind that cannot be used, as an error. -/
def kindError? (u : UsableSchema) (c : Catalog) : Option HeaderError :=
  c.kinds.zipIdx.findSome? fun (name, position) =>
    (u.kindDefect? c name).map (.unusableKind name position)

/-- The header of a catalog and a budget. -/
def header (u : UsableSchema) (c : Catalog) (budget : SlotBudget) : Except HeaderError Header :=
  match u.kindError? c with
  | some error => .error error
  | none => .ok (.build u.schema c budget)

end UsableSchema

/-- The header of a list of kinds and a number of slots, under the default schema. -/
def Header.ofNames (kinds : List String) (slots : Nat) : Except HeaderError Header := do
  let catalog ← Catalog.ofNames kinds
  let budget ← SlotBudget.ofNat slots
  UsableSchema.standard.header catalog budget

end ErrorScaffold
