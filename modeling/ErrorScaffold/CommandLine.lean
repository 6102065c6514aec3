/-
Commands, as the arguments of the program give them.

* `Invocation.ofArguments` — the command and how it talks, or why there is none.
-/
import ErrorScaffold.CommandLine.Reading
import ErrorScaffold.ReferencePage

namespace ErrorScaffold

/-- A command with its arguments. -/
inductive Command
  /-- Write the header. -/
  | generate (config : Option String) (slots : Option Nat) (output : Option String)
  /-- List the ordinal table. -/
  | catalog (config : Option String)
  /-- Shorten what a compiler said. -/
  | filter (raw : String)
  /-- Print a test program for a template. -/
  | skeleton (source : String)
  /-- Write the tag names of a reference page. -/
  | tags (address output : String)
  deriving DecidableEq, Repr

/-- How a command talks. -/
structure OutputMode where
  /-- Summaries are JSON. -/
  json : Bool := false
  /-- Only errors are worth a line. -/
  quiet : Bool := false
  /-- Progress is reported. -/
  verbose : Bool := false
  deriving DecidableEq, Repr

/-- A command and how it talks. -/
structure Invocation where
  command : Command
  mode : OutputMode
  deriving DecidableEq, Repr

/-- Where the tags go if nothing else is said. -/
def standardTagsPath : String := "tags.hpp"

namespace CommandLine

/-- The command of a verb and its settings. -/
def Verb.command (verb : Verb) (s : Settings) : Except UsageError Command :=
  match verb with
  | .generate => .ok (.generate s.config s.slots s.output)
  | .catalog => .ok (.catalog s.config)
  | .filter => .ok (.filter (s.operand.getD ""))
  | .skeleton =>
    match s.operand with
    | some source => .ok (.skeleton source)
    | none => .error (.missingOperand .skeleton)
  | .tags => .ok (.tags (s.url.getD referenceAddress) (s.output.getD standardTagsPath))

end CommandLine

open CommandLine in
/-- The invocation that the arguments give.  A flag may stand before the verb, after it, or in both
places. -/
def Invocation.ofArguments (arguments : List String) : Except UsageError Invocation := do
  let (before, verb, rest) ← readProgram arguments { verb? := none }
  let after ← readCommand verb rest { verb? := some verb }
  let command ← verb.command after
  let flags := before.flags ++ after.flags
  return {
    command
    mode := {
      json := flags.contains .json
      quiet := flags.contains .quiet
      verbose := flags.contains .verbose } }

end ErrorScaffold
