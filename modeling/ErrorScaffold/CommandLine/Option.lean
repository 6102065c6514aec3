/-
The options of the command line.

Some options are known everywhere, and each command adds its own.  An option has a long name, most
have a letter as well, and some take a value.
-/

namespace ErrorScaffold.CommandLine

/-- What the program can be told to do. -/
inductive Verb
  | generate
  | catalog
  | filter
  | skeleton
  | tags
  deriving DecidableEq, Repr

namespace Verb

def all : List Verb :=
  [generate, catalog, filter, skeleton, tags]

def name : Verb → String
  | generate => "generate"
  | catalog => "catalog"
  | filter => "filter"
  | skeleton => "skeleton"
  | tags => "tags"

def ofName? (name : String) : Option Verb :=
  all.find? fun verb => verb.name == name

end Verb

/-- An option. -/
inductive Opt
  | json
  | quiet
  | verbose
  | help
  | version
  | config
  | slots
  | output
  | url
  deriving DecidableEq, Repr

namespace Opt

def longName : Opt → String
  | json => "json"
  | quiet => "quiet"
  | verbose => "verbose"
  | help => "help"
  | version => "version"
  | config => "config"
  | slots => "slots"
  | output => "output"
  | url => "url"

def letter? : Opt → Option Char
  | json => none
  | quiet => some 'q'
  | verbose => some 'v'
  | help => some 'h'
  | version => some 'V'
  | config => some 'c'
  | slots => some 'n'
  | output => some 'o'
  | url => none

def takesValue : Opt → Bool
  | config => true
  | slots => true
  | output => true
  | url => true
  | _ => false

/-- The options known before the verb. -/
def program : List Opt :=
  [json, quiet, verbose, help, version]

/-- The options known after a verb. -/
def command (verb : Verb) : List Opt :=
  let own := match verb with
    | .generate => [config, slots, output]
    | .catalog => [config]
    | .filter => []
    | .skeleton => []
    | .tags => [url, output]
  own ++ [json, quiet, verbose, help]

/-- The option of a long name among those known. -/
def ofLong? (known : List Opt) (name : String) : Option Opt :=
  known.find? fun opt => opt.longName == name

/-- The option of a letter among those known. -/
def ofLetter? (known : List Opt) (letter : Char) : Option Opt :=
  known.find? fun opt => opt.letter? == some letter

end Opt

/-- Why the arguments are not run as a command: they are wrong, or they ask for a text about the
program. -/
inductive UsageError
  | unknownArgument (argument : String)
  | unknownVerb (name : String)
  | missingVerb
  | missingOperand (verb : Verb)
  | missingValue (opt : Opt)
  | notANumber (opt : Opt) (text : String)
  | repeated (opt : Opt)
  /-- A value for an option that takes none. -/
  | unexpectedValue (opt : Opt)
  /-- No argument at all; the help is shown instead. -/
  | nothingGiven
  | help (verb? : Option Verb)
  | version
  deriving DecidableEq, Repr

end ErrorScaffold.CommandLine
