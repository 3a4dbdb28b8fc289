/-
Reading a command line.

Arguments are read from left to right. An option with two dashes takes its value after an equals sign or from
the next argument, which may not look like an option itself. Its value is looked at only when the next option
is read or the arguments end, so something that is no option at all is reported before a bad value that
stands to its left, while a call for help is reported after it. No option may be given twice. An option that
is not given is looked for in the environment, and what neither of them says keeps its default.
-/
import TrainingJobs.CommandLine.Settings

set_option autoImplicit false

namespace TrainingJobs

/-- Why a command line does not start the operator. -/
inductive UsageError where
  | helpWanted
  | versionWanted
  | unknownArgument (text : String)
  | missingValue (option : String)
  | badValue (option text : String)
  /-- The variable of a switch is neither `true` nor `false`. -/
  | badSwitch (option text : String)
  /-- A switch was given a value. -/
  | unneededValue (option text : String)
  | repeated (option : String)
  deriving DecidableEq, Repr, Inhabited

namespace UsageError

def exitCode : UsageError → Nat
  | helpWanted | versionWanted => 0
  | unknownArgument _ | missingValue _ | badValue .. | badSwitch .. | unneededValue .. | repeated _ => 2

def message : UsageError → String
  | helpWanted => "help"
  | versionWanted => "version"
  | unknownArgument text => "error: unexpected argument '" ++ text ++ "' found"
  | missingValue option => "error: a value is required for '--" ++ option ++ "' but none was supplied"
  | badValue option text | badSwitch option text =>
    "error: invalid value '" ++ text ++ "' for '--" ++ option ++ "'"
  | unneededValue option text =>
    "error: unexpected value '" ++ text ++ "' for '--" ++ option ++ "' found; no more were expected"
  | repeated option => "error: the argument '--" ++ option ++ "' cannot be used multiple times"

end UsageError

/-- How an argument is to be understood. -/
inductive Argument where
  /-- Two dashes alone: no options follow. -/
  | endOfOptions
  /-- A name after two dashes, and the text after an equals sign. -/
  | long (name : String) (value : Option String)
  /-- A letter after one dash. -/
  | short (letter : Char)
  | plain
  deriving DecidableEq, Repr, Inhabited

namespace Argument

/-- How a text is to be understood. -/
def ofText (text : String) : Argument :=
  match text.toList with
  | ['-', '-'] => endOfOptions
  | '-' :: '-' :: rest =>
    let value := rest.dropWhile (· ≠ '=')
    long (String.ofList (rest.takeWhile (· ≠ '=')))
      (if value.isEmpty then none else some (String.ofList (value.drop 1)))
  | '-' :: letter :: _ => short letter
  | _ => plain

end Argument

/-- What was read of a command line. -/
structure CommandReading where
  settings : Settings := {}
  given : List String := []
  /-- The option that was read last, with its value as far as it was read. -/
  pending : Option (CommandOption × Option String) := none

namespace CommandReading

/-- Takes an option with its value. -/
def take (r : CommandReading) (option : CommandOption) (text : String) : Except UsageError CommandReading :=
  if r.given.contains option.name then .error (.repeated option.name)
  else
    match option.apply text r.settings with
    | some settings => .ok { settings := settings, given := option.name :: r.given, pending := none }
    | none => .error (.badValue option.name text)

/-- Takes the option that was read last. -/
def resolve (r : CommandReading) : Except UsageError CommandReading :=
  match r.pending with
  | none => .ok r
  | some (option, none) => .error (.missingValue option.name)
  | some (option, some text) => { r with pending := none }.take option text

def readLong (r : CommandReading) (name : String) (value : Option String) :
    Except UsageError CommandReading :=
  let end? : Option UsageError :=
    if name = "help" then some .helpWanted else if name = "version" then some .versionWanted else none
  match end?, CommandOption.all.find? fun o => o.name == name with
  | some ending, _ =>
    match value with
    | some text => .error (.unneededValue name text)
    | none => do
      let _ ← r.resolve
      .error ending
  | none, none => .error (.unknownArgument ("--" ++ name))
  | none, some option =>
    match option.takesValue, value with
    | true, some text => do (← r.resolve).take option text
    | true, none => do return { ← r.resolve with pending := some (option, none) }
    | false, some text => .error (.unneededValue name text)
    | false, none => do (← r.resolve).take option "true"

def readShort (r : CommandReading) (letter : Char) : Except UsageError CommandReading :=
  if letter = 'h' then do
    let _ ← r.resolve
    .error .helpWanted
  else if letter = 'V' then do
    let _ ← r.resolve
    .error .versionWanted
  else .error (.unknownArgument (String.ofList ['-', letter]))

def readAll (r : CommandReading) : List String → Except UsageError CommandReading
  | [] => r.resolve
  | text :: rest =>
    match Argument.ofText text with
    | .endOfOptions =>
      -- After the options only operands could follow, and the program has none.
      match rest with
      | [] => r.resolve
      | text :: _ => .error (.unknownArgument text)
    | .long name value => do (← r.readLong name value).readAll rest
    | .short letter => do (← r.readShort letter).readAll rest
    | .plain =>
      -- Only an option that still lacks its value can make use of such an argument.
      match r.pending with
      | some (option, none) => { r with pending := some (option, some text) }.readAll rest
      | _ => .error (.unknownArgument text)

/-- Looks an option up in the environment, unless it was given. -/
def lookUp (env : Environment) (r : CommandReading) (option : CommandOption) :
    Except UsageError CommandReading :=
  if r.given.contains option.name then .ok r
  else
    match option.variableName.bind env with
    | none => .ok r
    | some text =>
      match option.apply text r.settings with
      | some settings => .ok { r with settings := settings }
      | none => .error (if option.takesValue then .badValue option.name text else .badSwitch option.name text)

end CommandReading

namespace Settings

/-- The settings that arguments and an environment ask for. -/
def read (arguments : List String) (env : Environment) : Except UsageError Settings := do
  let r ← ({} : CommandReading).readAll arguments
  return (← CommandOption.all.foldlM (CommandReading.lookUp env) r).settings

end Settings

end TrainingJobs
