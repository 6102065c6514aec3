/-
Why the operating system refuses to read, write or connect.

The text of a fault ends with the number the system gives it; the two faults that are found before
the system is asked have none.
-/

namespace ErrorScaffold

/-- A refusal of the operating system. -/
inductive SystemFault
  | notFound
  | permissionDenied
  | notDirectory
  | isDirectory
  | noSpace
  | nameTooLong
  | networkUnreachable
  | connectionRefused
  /-- The bytes of a file that should be text are not UTF-8. -/
  | notText
  /-- A path holds the character that ends one. -/
  | nulInPath
  /-- Any other refusal, in the system's words. -/
  | other (text : String)
  deriving DecidableEq, Repr

def SystemFault.message : SystemFault → String
  | notFound => "No such file or directory (os error 2)"
  | permissionDenied => "Permission denied (os error 13)"
  | notDirectory => "Not a directory (os error 20)"
  | isDirectory => "Is a directory (os error 21)"
  | noSpace => "No space left on device (os error 28)"
  | nameTooLong => "File name too long (os error 36)"
  | networkUnreachable => "Network is unreachable (os error 101)"
  | connectionRefused => "Connection refused (os error 111)"
  | notText => "stream did not contain valid UTF-8"
  | nulInPath => "file name contained an unexpected NUL byte"
  | other text => text

end ErrorScaffold
