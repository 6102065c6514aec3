/-
Files as a value.

A store holds files, directories and devices, each under the components of its path from the root.
`FileStore.read` and `FileStore.write` refuse what a file system refuses: a component that is
missing or is a file where a directory has to be, a directory as a file, and names that are too
long.  A path that does not start at the root starts at the working directory.
-/
import ErrorScaffold.SystemFault

namespace ErrorScaffold

/-- What stands under a path. -/
inductive FileEntry
  | file (content : ByteArray)
  | directory
  /-- A device: nothing comes out of it, and what goes in is gone unless the device refuses it. -/
  | device (refusal? : Option SystemFault)

/-- A place, by the components of its path from the root. -/
abbrev Location := List String

/-- What is stored, and where one is in it; a directory is also there if something is in it. -/
structure FileStore where
  entries : List (Location × FileEntry) := []
  workingDirectory : Location := []

namespace FileStore

/-- What stands at a location. -/
def entry? (store : FileStore) (location : Location) : Option FileEntry :=
  if location.isEmpty then some .directory
  else
    match store.entries.lookup location with
    | some entry => some entry
    | none =>
      if store.entries.any fun entry => location.isPrefixOf entry.1 then some .directory else none

/-- Puts a file at a location. -/
def put (store : FileStore) (location : Location) (content : ByteArray) : FileStore :=
  { store with
    entries := (location, .file content) :: store.entries.filter fun entry => entry.1 != location }

/-! ### Paths -/

/-- The longest name of a component, in bytes. -/
def nameLimit : Nat := 255

/-- The length from which on a path is refused, in bytes. -/
def pathLimit : Nat := 4096

/-- One step along a path.  Above the root there is the root. -/
def step (here : Location) (component : String) : Except SystemFault Location :=
  if nameLimit < component.utf8ByteSize then .error .nameTooLong
  else if component = "." then .ok here
  else if component = ".." then .ok here.dropLast
  else .ok (here ++ [component])

/-- A step into a directory. -/
def enter (store : FileStore) (here : Location) (component : String) :
    Except SystemFault Location := do
  let next ← step here component
  match store.entry? next with
  | some .directory => .ok next
  | some _ => .error .notDirectory
  | none => .error .notFound

/-- The directory that a path leads to before its last component, and that component. -/
def lead (store : FileStore) (path : String) : Except SystemFault (Location × Option String) :=
  if path.contains '\x00' then .error .nulInPath
  else if pathLimit ≤ path.utf8ByteSize then .error .nameTooLong
  else if path.isEmpty then .error .notFound
  else do
    let start := if path.startsWith "/" then [] else store.workingDirectory
    let components := (path.splitOn "/").filter fun component => component != ""
    return (← components.dropLast.foldlM store.enter start, components.getLast?)

/-- The place of the last component of a path; without one it is the directory itself. -/
def place (here : Location) : Option String → Except SystemFault Location
  | some component => step here component
  | none => .ok here

/-- Whether a path can only name a directory. -/
def endsInSlash (path : String) : Bool :=
  path.endsWith "/"

/-! ### Reading and writing -/

/-- The content of the file at a path; a device has none. -/
def read (store : FileStore) (path : String) : Except SystemFault ByteArray := do
  let (here, last?) ← store.lead path
  let location ← place here last?
  match store.entry? location with
  | none => .error .notFound
  | some .directory => .error .isDirectory
  | some (.file content) => if endsInSlash path then .error .notDirectory else .ok content
  | some (.device _) => if endsInSlash path then .error .notDirectory else .ok .empty

/-- The store with a file at a path, put there or put in the place of another; a device stays.  A
slash at the end of the path is refused before its last component is looked at. -/
def write (store : FileStore) (path : String) (content : ByteArray) :
    Except SystemFault FileStore := do
  let (here, last?) ← store.lead path
  if endsInSlash path then .error .isDirectory
  else
    let location ← place here last?
    match store.entry? location with
    | some .directory => .error .isDirectory
    | some (.device (some refusal)) => .error refusal
    | some (.device none) => .ok store
    | _ => .ok (store.put location content)

end FileStore

end ErrorScaffold
