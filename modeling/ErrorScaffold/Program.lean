/-
The whole program: from its arguments to its exit code.

A command that ends well exits with 0 and one that fails with 1, after a report of its error unless
it was asked to be quiet.  Arguments that give no command exit with 2, and those that ask for the
help or the version exit with 0.
-/
import ErrorScaffold.Run

namespace ErrorScaffold

namespace Program

/-- The name of the program and its version. -/
def versionText : String := "sptgen 0.1.0\n"

/-- How the arguments of a verb are written. -/
def synopsis : CommandLine.Verb → String
  | .generate => "sptgen generate [--config FILE] [--slots COUNT] [--output FILE]"
  | .catalog => "sptgen catalog [--config FILE]"
  | .filter => "sptgen filter [RAW]"
  | .skeleton => "sptgen skeleton SOURCE"
  | .tags => "sptgen tags [--url URL] [--output FILE]"

/-- The options that every command knows. -/
def sharedOptions : String :=
  "  --json         Output summaries as JSON\n  -q, --quiet    Suppress non-error output\n"
    ++ "  -v, --verbose  Show progress on stderr\n  -h, --help     Print help\n"

/-- The help on the program or on one command. -/
def helpText : Option CommandLine.Verb → String
  | some verb => "Usage: " ++ synopsis verb ++ "\n\nOptions:\n" ++ sharedOptions
  | none =>
    "Usage: sptgen [OPTIONS] COMMAND\n\nCommands:\n"
      ++ String.join (CommandLine.Verb.all.map fun verb => "  " ++ synopsis verb ++ "\n")
      ++ "\nOptions:\n" ++ sharedOptions ++ "  -V, --version  Print version\n"

/-- What is wrong with the arguments. -/
def complaint : CommandLine.UsageError → String
  | .unknownArgument argument => "unexpected argument '" ++ argument ++ "'"
  | .unknownVerb name => "unrecognized command '" ++ name ++ "'"
  | .missingVerb => "a command is required"
  | .missingOperand verb => "'" ++ verb.name ++ "' needs an operand"
  | .missingValue opt => "a value is required for '--" ++ opt.longName ++ "'"
  | .notANumber opt text =>
    "invalid value '" ++ text ++ "' for '--" ++ opt.longName ++ "': not a number of slots"
  | .repeated opt => "'--" ++ opt.longName ++ "' cannot be used more than once"
  | .unexpectedValue opt => "'--" ++ opt.longName ++ "' takes no value"
  | .nothingGiven => "a command is required"
  | .help _ => "help"
  | .version => "version"

/-- The report of an error. -/
def errorReport (e : RunError) : String :=
  e.code ++ "\n\n  × " ++ e.message ++ "\n"
    ++ (match e.help? with
      | some help => "  help: " ++ help ++ "\n"
      | none => "")

variable {m : Type → Type} [Monad m] (host : Host m)

/-- Answers arguments that give no command, and gives the exit code. -/
def refuse (e : CommandLine.UsageError) : m UInt32 := do
  match e with
  | .help verb? => do
    host.print (helpText verb?)
    return 0
  | .version => do
    host.print versionText
    return 0
  | .nothingGiven => do
    host.note (helpText none)
    return 2
  | e => do
    host.note ("error: " ++ complaint e ++ "\n")
    return 2

/-- Runs the program and gives its exit code. -/
def run (arguments : List String) : m UInt32 := do
  match Invocation.ofArguments arguments with
  | .error e => refuse host e
  | .ok invocation => do
    match ← invocation.run host with
    | .ok () => return 0
    | .error e => do
      unless invocation.mode.quiet do host.note (errorReport e)
      return 1

end Program

end ErrorScaffold
