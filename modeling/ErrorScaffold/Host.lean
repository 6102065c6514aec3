/-
What a command needs of the world.

A host reads and writes files, fetches pages and prints.  Commands are written for any host.  On
the host of a `Session` a command is a function: from the files before it to the files after it and
what was printed.
-/
import ErrorScaffold.FileStore
import ErrorScaffold.ReferencePage

namespace ErrorScaffold

/-- The world as a command sees it. -/
structure Host (m : Type → Type) where
  /-- The content of a file. -/
  load : String → m (Except SystemFault ByteArray)
  /-- Stores a file with a text in it. -/
  store : String → String → m (Except SystemFault Unit)
  fetch : Url → m Fetch
  /-- Prints to the output. -/
  print : String → m Unit
  /-- Prints to the channel of errors and progress. -/
  note : String → m Unit

/-- Files, and what was printed. -/
structure Session where
  files : FileStore := {}
  stdout : String := ""
  stderr : String := ""

namespace Session

/-- Stores a file, unless the store refuses. -/
def store (path text : String) : StateM Session (Except SystemFault Unit) := do
  let session ← get
  match session.files.write path text.toUTF8 with
  | .ok files => do
    set { session with files }
    return .ok ()
  | .error fault => return .error fault

/-- The host of a session; `fetch` says what comes of a request for a page. -/
def host (fetch : Url → Fetch) : Host (StateM Session) where
  load path := return (← get).files.read path
  store := store
  fetch url := return fetch url
  print text := modify fun session => { session with stdout := session.stdout ++ text }
  note text := modify fun session => { session with stderr := session.stderr ++ text }

end Session

end ErrorScaffold
