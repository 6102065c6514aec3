/-
Tables while a document is read.

Entries may come in several pieces: a header opens a table by its path, a dotted key reaches into
tables below the current one, and an array of tables gets one more element with each of its
headers.  A draft keeps how a table came about, since that decides what may still be added to it:

* a table that only a header's path implied may be opened once by a header of its own;
* a table that a dotted key made may be added to by dotted keys, and by no header of its own;
* a table that was opened, and a value of any kind, may not be added to by dotted keys.
-/
import ErrorScaffold.Toml.Value

namespace ErrorScaffold.Toml

/-- How a table came about. -/
inductive Origin
  /-- A header opened it, or it is the root or an element of an array. -/
  | opened
  /-- The path of a header goes through it. -/
  | implied
  /-- A dotted key goes through it. -/
  | dotted
  deriving DecidableEq, Repr

/-- What a key stands for while a document is read. -/
inductive Draft
  | value (v : Value)
  | table (origin : Origin) (entries : List (String × Draft))
  /-- The tables of an array that headers add to. -/
  | tables (elements : List (List (String × Draft)))

namespace Draft

/-- The entries of a table, in the order in which their keys came first. -/
abbrev Entries := List (String × Draft)

/-- Puts another draft at a key, in its place. -/
def Entries.replace (entries : Entries) (key : String) (draft : Draft) : Entries :=
  entries.map fun entry => if entry.1 == key then (key, draft) else entry

/-- The entries without a key. -/
def Entries.remove (entries : Entries) (key : String) : Entries :=
  entries.filter fun entry => entry.1 != key

/-- Changes the table at the end of a path, from the root table `entries` of origin `here`.  A
table that is missing on the way is made with the origin `missing`; of an array the last table is
taken.  A dotted key does not reach into a table that was opened. -/
def modifyAt? (missing : Origin) (change : Origin → Entries → Option Entries) :
    List String → Origin → Entries → Option Entries
  | [], here, entries => change here entries
  | key :: path, _, entries =>
    match entries.lookup key with
    | none => do
      let inner ← modifyAt? missing change path missing []
      return entries ++ [(key, .table missing inner)]
    | some (.table origin inner) => do
      if missing = .dotted ∧ origin = .opened then none
      else
        let inner ← modifyAt? missing change path origin inner
        return entries.replace key (.table origin inner)
    | some (.tables elements) => do
      let last ← elements.getLast?
      let last ← modifyAt? missing change path .opened last
      return entries.replace key (.tables (elements.dropLast ++ [last]))
    | some (.value _) => none

/-- Adds the value of a key, given by its path, to a table.  The key must be new, and the table
that it goes into must be one that dotted keys made exactly if the path is dotted. -/
def insert? (entries : Entries) (path : List String) (v : Value) : Option Entries := do
  let key ← path.getLast?
  let parents := path.dropLast
  modifyAt? .dotted
    (fun origin inner =>
      if (origin == .dotted) == parents.isEmpty || (inner.lookup key).isSome then none
      else some (inner ++ [(key, .value v)]))
    parents .opened entries

/-- Adds values one after another. -/
def insertAll? (entries : Entries) (pairs : List (List String × Value)) : Option Entries :=
  pairs.foldlM (fun entries pair => insert? entries pair.1 pair.2) entries

/-- Opens the table at a path and adds values to it.  The table must be new or merely implied; it
comes last among its neighbours from now on. -/
def openTable? (root : Entries) (path : List String) (pairs : List (List String × Value)) :
    Option Entries := do
  let key ← path.getLast?
  modifyAt? .implied
    (fun _ neighbours => do
      let before ← match neighbours.lookup key with
        | none => some []
        | some (.table .implied entries) => some entries
        | some _ => none
      let entries ← insertAll? before pairs
      return neighbours.remove key ++ [(key, .table .opened entries)])
    path.dropLast .opened root

/-- Adds a table of values to the array at a path, which must be new or an array of tables. -/
def openElement? (root : Entries) (path : List String) (pairs : List (List String × Value)) :
    Option Entries := do
  let key ← path.getLast?
  modifyAt? .implied
    (fun _ neighbours => do
      let entries ← insertAll? [] pairs
      match neighbours.lookup key with
      | none => return neighbours ++ [(key, .tables [entries])]
      | some (.tables elements) =>
        return neighbours.replace key (.tables (elements ++ [entries]))
      | some _ => none)
    path.dropLast .opened root

/-! ### The finished value -/

mutual

/-- The value that a draft stands for. -/
def toValue : Draft → Value
  | .value v => v
  | .table _ entries => .table (entriesToTable entries)
  | .tables elements => .array (elementsToValues elements)

/-- The entries of a finished table. -/
def entriesToTable : List (String × Draft) → Table
  | [] => []
  | (key, draft) :: entries => (key, draft.toValue) :: entriesToTable entries

/-- The elements of a finished array of tables. -/
def elementsToValues : List (List (String × Draft)) → List Value
  | [] => []
  | entries :: elements => .table (entriesToTable entries) :: elementsToValues elements

end

end Draft

end ErrorScaffold.Toml
