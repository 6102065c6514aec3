/-
Running a command.

Every command checks all that it can before it writes or prints anything: a file is written in one
go when its text is complete, and only then is there anything on the output.

* `Command.run` — the effect of a command on any host.
-/
import ErrorScaffold.CommandLine
import ErrorScaffold.CompilerOutput
import ErrorScaffold.Config
import ErrorScaffold.Host
import ErrorScaffold.OrdinalListing
import ErrorScaffold.Skeleton

namespace ErrorScaffold

/-- Why a command fails. -/
inductive RunError
  | header (e : HeaderError)
  | reference (e : ReferenceError)
  | config (e : ConfigError)
  | unwritable (path : String) (fault : SystemFault)

namespace RunError

def message : RunError → String
  | header e => e.message
  | reference e => e.message
  | config e => e.message
  | unwritable path fault => "failed to write " ++ path ++ ": " ++ fault.message

def code : RunError → String
  | header e => e.code
  | reference e => e.code
  | config e => e.code
  | unwritable .. => "sptgen::output"

def help? : RunError → Option String
  | header e => e.help?
  | reference e => e.help?
  | config _ => none
  | unwritable .. => none

end RunError

namespace Host

variable {m : Type → Type} [Monad m]

/-- Reports progress. -/
def progress (host : Host m) (mode : OutputMode) (line : String) : m Unit :=
  if mode.verbose && !mode.quiet then host.note (line ++ "\n") else pure ()

/-- Prints a summary for people. -/
def remark (host : Host m) (mode : OutputMode) (line : String) : m Unit :=
  if mode.quiet then pure () else host.print (line ++ "\n")

end Host

namespace Command

variable {m : Type → Type} [Monad m] (host : Host m) (mode : OutputMode)

/-- The configuration in a file, or the built-in one. -/
def readConfig (path? : Option String) : ExceptT RunError m Config := do
  match path? with
  | none => do
    host.progress mode "Using the built-in seephit catalog"
    return {}
  | some path => do
    host.progress mode ("Loading " ++ path)
    match ← host.load path with
    | .error fault => throw (.config (.unreadable path fault))
    | .ok content =>
      match String.fromUTF8? content with
      | none => throw (.config (.unreadable path .notText))
      | some text => ExceptT.mk (pure ((Config.parse text).mapError .config))

/-- A step that only the catalog, the schema or the budget can refuse. -/
def checked (result : Except HeaderError α) : ExceptT RunError m α :=
  ExceptT.mk (pure (result.mapError .header))

/-- A step that only the reference page can fail. -/
def referenced (result : Except ReferenceError α) : ExceptT RunError m α :=
  ExceptT.mk (pure (result.mapError .reference))

/-- The summary of a generated header, as a JSON object. -/
def headerSummary (path : String) (header : Header) : String :=
  "\x7b\"output\":" ++ Text.jsonString path ++ ",\"ordinals\":" ++ OrdinalRow.jsonArray header.rows
    ++ ",\"slots\":" ++ toString header.slotCount ++ ",\"bytes\":"
    ++ toString header.text.utf8ByteSize ++ "\x7d"

/-- The summary of a generated header, for people. -/
def headerRemark (path : String) (header : Header) : String :=
  "Wrote " ++ path ++ " (" ++ quantity header.trialCount "kind" ++ ", "
    ++ quantity header.slotCount "slot" ++ ")"

/-- Generates the header and writes it to a file or to the output. -/
def writeHeader (config? : Option String) (slots? : Option Nat) (output? : Option String) :
    ExceptT RunError m Unit := do
  let config ← readConfig host mode config?
  let catalog ← checked config.catalog
  let budget ← checked (config.budget slots?)
  let schema ← checked config.usableSchema
  let header ← checked (schema.header catalog budget)
  host.progress mode ("Generated " ++ quantity catalog.ordinalCount "ordinal" ++ " and "
    ++ quantity header.slotCount "warning slot")
  match output? with
  | none => host.print header.text
  | some path => do
    match ← host.store path header.text with
    | .error fault => throw (.unwritable path fault)
    | .ok () =>
      if mode.json then host.print (headerSummary path header ++ "\n")
      else host.remark mode (headerRemark path header)

/-- Lists the ordinal table. -/
def listOrdinals (config? : Option String) : ExceptT RunError m Unit := do
  let config ← readConfig host mode config?
  let catalog ← checked config.catalog
  let usable ← checked config.usableSchema
  let rows := OrdinalRow.table usable.schema catalog
  if mode.json then host.print (OrdinalRow.jsonArray rows ++ "\n")
  else host.print (String.join (rows.map OrdinalRow.line))

/-- The summary of a tag file, as a JSON object. -/
def tagsSummary (path : String) (file : TagFile) : String :=
  "\x7b\"output\":" ++ Text.jsonString path ++ ",\"tags\":" ++ toString file.tags.length ++ "\x7d"

/-- The summary of a tag file, for people. -/
def tagsRemark (path : String) (file : TagFile) : String :=
  "Wrote " ++ toString file.tags.length ++ " tags to " ++ path

/-- Writes the tag names of a page to a file. -/
def writeTagFile (address output : String) : ExceptT RunError m Unit := do
  host.progress mode ("Fetching " ++ address)
  let url ← referenced (Url.ofAddress address)
  let fetched ← host.fetch url
  let file ← referenced (TagFile.ofFetch address url fetched)
  match ← host.store output file.render with
  | .error fault => throw (.reference (.unwritable fault))
  | .ok () =>
    if mode.json then host.print (tagsSummary output file ++ "\n")
    else host.remark mode (tagsRemark output file)

/-- Runs a command. -/
def run (command : Command) : ExceptT RunError m Unit :=
  match command with
  | .generate config? slots? output? => writeHeader host mode config? slots? output?
  | .catalog config? => listOrdinals host mode config?
  | .filter raw => host.print (CompilerOutput.shorten raw ++ "\n")
  | .skeleton source => host.print (Skeleton.text source ++ "\n")
  | .tags address output => writeTagFile host mode address output

end Command

/-- Runs a command as its invocation says. -/
def Invocation.run {m : Type → Type} [Monad m] (invocation : Invocation) (host : Host m) :
    m (Except RunError Unit) :=
  (invocation.command.run host invocation.mode).run

end ErrorScaffold
