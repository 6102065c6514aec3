/-
The program on the real world.

Files and streams are those of the system.  There is no network client here, so that a page is
always out of reach.
-/
import ErrorScaffold.Program

namespace ErrorScaffold

/-- The fault of an error of the system. -/
def SystemFault.ofError : IO.Error → SystemFault
  | .noFileOrDirectory .. => .notFound
  | .permissionDenied .. => .permissionDenied
  | .resourceExhausted _ code details => if code = 28 then .noSpace else .other details
  | .inappropriateType _ code details =>
    if code = 20 then .notDirectory else if code = 21 then .isDirectory else .other details
  | e => .other (toString e)

/-- Runs an action of the system and keeps its fault. -/
def attempt (action : IO α) : IO (Except SystemFault α) := do
  match ← action.toBaseIO with
  | .ok a => return .ok a
  | .error e => return .error (.ofError e)

/-- The real world. -/
def systemHost : Host IO where
  load path := attempt (IO.FS.readBinFile path)
  store path text := attempt (IO.FS.writeFile path text)
  fetch _ := return .unconnected .networkUnreachable
  print text := do
    let stdout ← IO.getStdout
    stdout.putStr text
    stdout.flush
  note text := IO.eprint text

end ErrorScaffold

def main (arguments : List String) : IO UInt32 :=
  ErrorScaffold.Program.run ErrorScaffold.systemHost arguments
