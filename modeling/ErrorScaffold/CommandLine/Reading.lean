/-
Reading arguments from left to right.

An option that takes a value takes the next argument, unless that looks like an option itself.  A
value is looked at only when the next option or the end shows that it is complete, so of two
faults an unknown argument may come before a wrong value that stands to its left.  After `--` every
argument is an operand.
-/
import ErrorScaffold.CommandLine.Option

namespace ErrorScaffold.CommandLine

/-! ### Settings -/

/-- What the arguments have set. -/
structure Settings where
  /-- The options without a value that were given. -/
  flags : List Opt := []
  config : Option String := none
  slots : Option Nat := none
  output : Option String := none
  url : Option String := none
  operand : Option String := none
  deriving DecidableEq, Repr

/-- A whole number of 64 bits; a plus may stand before its digits. -/
def number? (text : String) : Option Nat :=
  let digits := match text.toList with
    | '+' :: rest => rest
    | chars => chars
  if digits.isEmpty || !digits.all Char.isDigit then none
  else
    let value := digits.foldl (fun value c => value * 10 + (c.toNat - '0'.toNat)) 0
    if value ≤ 18446744073709551615 then some value else none

namespace Settings

/-- A path is not empty. -/
def path (opt : Opt) (value : String) : Except UsageError String :=
  if value.isEmpty then .error (.missingValue opt) else .ok value

def number (opt : Opt) (value : String) : Except UsageError Nat :=
  match number? value with
  | some n => .ok n
  | none => .error (.notANumber opt value)

/-- An option is given once. -/
def once (opt : Opt) (before : Option α) : Except UsageError Unit :=
  if before.isSome then .error (.repeated opt) else .ok ()

/-- Gives a value to an option. -/
def assign (s : Settings) (opt : Opt) (value : String) : Except UsageError Settings :=
  match opt with
  | .config => do
    once opt s.config
    return { s with config := some (← path opt value) }
  | .slots => do
    once opt s.slots
    return { s with slots := some (← number opt value) }
  | .output => do
    once opt s.output
    return { s with output := some (← path opt value) }
  | .url => do
    once opt s.url
    return { s with url := some value }
  | _ => .error (.unexpectedValue opt)

/-- Sets an option without a value; two of them end the reading. -/
def raise (s : Settings) (verb? : Option Verb) (opt : Opt) : Except UsageError Settings :=
  if opt = .help then .error (.help verb?)
  else if opt = .version then .error .version
  else if opt ∈ s.flags then .error (.repeated opt)
  else .ok { s with flags := opt :: s.flags }

end Settings

/-! ### Arguments -/

/-- What an argument looks like. -/
inductive Shape
  /-- Two dashes: only operands follow. -/
  | separator
  /-- A long name, with a value after an equals sign or not. -/
  | long (name : List Char) (value? : Option (List Char))
  /-- Letters after one dash. -/
  | letters (chars : List Char)
  | plain

def Shape.of (argument : String) : Shape :=
  match argument.toList with
  | ['-', '-'] => .separator
  | '-' :: '-' :: rest =>
    match rest.dropWhile (· != '=') with
    | [] => .long rest none
    | _ :: value => .long (rest.takeWhile (· != '=')) (some value)
  | '-' :: c :: rest => .letters (c :: rest)
  | _ => .plain

/-- The settings so far, and the option that was named last if its value is still to come or to be
looked at. -/
structure Reading where
  verb? : Option Verb
  settings : Settings := {}
  pending : Option (Opt × Option String) := none

namespace Reading

/-- The options known here. -/
def known (r : Reading) : List Opt :=
  match r.verb? with
  | none => Opt.program
  | some verb => Opt.command verb

/-- Looks at the value that is pending. -/
def settle (r : Reading) : Except UsageError Reading :=
  match r.pending with
  | none => .ok r
  | some (opt, none) => .error (.missingValue opt)
  | some (opt, some value) =>
    return { r with settings := ← r.settings.assign opt value, pending := none }

/-- Takes an option, with the value that is attached to it if there is one. -/
def option (r : Reading) (opt : Opt) (value? : Option String) : Except UsageError Reading :=
  match opt.takesValue, value? with
  | true, some value => do
    let r ← r.settle
    return { r with settings := ← r.settings.assign opt value }
  | true, none => do
    let r ← r.settle
    return { r with pending := some (opt, none) }
  | false, some _ => .error (.unexpectedValue opt)
  | false, none => do
    let r ← r.settle
    return { r with settings := ← r.settings.raise r.verb? opt }

/-- Takes a long option. -/
def long (r : Reading) (name : List Char) (value? : Option (List Char)) :
    Except UsageError Reading :=
  match Opt.ofLong? r.known (String.ofList name) with
  | some opt => r.option opt (value?.map String.ofList)
  | none => .error (.unknownArgument (String.ofList ('-' :: '-' :: name)))

/-- A value that is attached to a letter, perhaps after an equals sign. -/
def attached : List Char → String
  | '=' :: value => String.ofList value
  | value => String.ofList value

/-- Takes the letters of one argument.  What follows the letter of an option with a value is the
value. -/
def letters (r : Reading) : List Char → Except UsageError Reading
  | [] => .ok r
  | letter :: rest =>
    match Opt.ofLetter? r.known letter with
    | none => .error (.unknownArgument (String.ofList ['-', letter]))
    | some opt =>
      if opt.takesValue && !rest.isEmpty then r.option opt (some (attached rest))
      else do
        let r ← r.option opt none
        r.letters rest

/-- Whether a command has an operand. -/
def takesOperand : Verb → Bool
  | .filter => true
  | .skeleton => true
  | _ => false

/-- Takes an operand. -/
def operand (r : Reading) (verb : Verb) (argument : String) : Except UsageError Reading :=
  if takesOperand verb && r.settings.operand.isNone then do
    let r ← r.settle
    return { r with settings := { r.settings with operand := some argument } }
  else .error (.unknownArgument argument)

end Reading

/-- Reads the arguments after a verb. -/
def readCommand (verb : Verb) : List String → Reading → Except UsageError Settings
  | [], r => do
    let r ← r.settle
    return r.settings
  | argument :: rest, r =>
    match Shape.of argument with
    | .separator => do
      let r ← rest.foldlM (fun r operand => r.operand verb operand) r
      return (← r.settle).settings
    | .long name value? => do readCommand verb rest (← r.long name value?)
    | .letters chars => do readCommand verb rest (← r.letters chars)
    | .plain =>
      match r.pending with
      | some (opt, none) => readCommand verb rest { r with pending := some (opt, some argument) }
      | _ => do readCommand verb rest (← r.operand verb argument)

/-- What the word `help` asks for: the help of the program or of the command named after it. -/
def helpOn : List String → UsageError
  | [] => .help none
  | [name] =>
    match Verb.ofName? name with
    | some verb => .help (some verb)
    | none => if name = "help" then .help none else .unknownVerb name
  | name :: next :: _ =>
    if (Verb.ofName? name).isSome || name = "help" then .unknownVerb next else .unknownVerb name

/-- The end of the arguments comes before a verb. -/
def withoutVerb (r : Reading) : UsageError :=
  if r.settings.flags.isEmpty then .nothingGiven else .missingVerb

/-- Reads the arguments up to the verb: what they set, the verb, and the arguments after it. -/
def readProgram : List String → Reading → Except UsageError (Settings × Verb × List String)
  | [], r => .error (withoutVerb r)
  | argument :: rest, r =>
    match Shape.of argument with
    | .separator =>
      match rest with
      | [] => .error (withoutVerb r)
      | next :: _ =>
        if (Verb.ofName? next).isSome || next = "help" then .error (.unknownArgument next)
        else .error (.unknownVerb next)
    | .long name value? => do readProgram rest (← r.long name value?)
    | .letters chars => do readProgram rest (← r.letters chars)
    | .plain =>
      match Verb.ofName? argument with
      | some verb => .ok (r.settings, verb, rest)
      | none => .error (if argument = "help" then helpOn rest else .unknownVerb argument)

end ErrorScaffold.CommandLine
