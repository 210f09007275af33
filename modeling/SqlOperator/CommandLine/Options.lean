import SqlOperator.Text.Split
import SqlOperator.Text.Terminal

/-!
# Command line options

An option has a long name and either takes a value or is a switch. A value
follows its option, or is attached to it with `=`. What the command line leaves
out may be given by environment variables.

## Implementation notes

An option with a value is entered only when the next known option or the end is
met. An argument that is unknown is thus reported before a fault of the value in
front of it.
-/

namespace SqlOperator.CommandLine

/-- Environment variables and their values. -/
abbrev Environment := List (String × String)

/-- Why an option does not take a value. -/
inductive ValueFault where
  | notAChoice
  | malformed (reason : String)
  deriving DecidableEq, Inhabited

/-- An option that changes a record of settings. -/
structure OptionSpec (α : Type) where
  name : String
  /-- The environment variable that stands in for the option. -/
  envName : String
  takesValue : Bool
  help : String
  /-- The value without the option, as it is shown. -/
  default : Option String
  /-- Enter a value. -/
  set : String → α → Except ValueFault α

/-- The name of the value of an option. -/
def placeholder (name : String) : String :=
  String.ofList (name.toList.map fun c => if c = '-' then '_' else c.toUpper)

/-- The option as it is given. -/
def OptionSpec.flag {α : Type} (o : OptionSpec α) : String := "--" ++ o.name

/-- What follows the option when it is shown. -/
def OptionSpec.valueLabel {α : Type} (o : OptionSpec α) : String :=
  if o.takesValue then " <" ++ placeholder o.name ++ ">" else ""

/-- The option as messages show it. -/
def OptionSpec.label {α : Type} (o : OptionSpec α) : String := o.flag ++ o.valueLabel

/-- What is wrong with a command line. -/
inductive UsageError where
  | unknownArgument (argument : String)
  | unknownCommand (name : String)
  | missingValue (option : String)
  | notAChoice (option value : String)
  | malformedValue (option value reason : String)
  | repeatedOption (option : String)
  | unexpectedValue (option value : String)
  deriving DecidableEq, Inhabited

namespace UsageError

/-- A text in quotes and in a style. -/
def quoted (style : Text.Terminal.Style) (text : String) : String :=
  "'" ++ Text.Terminal.styled style text ++ "'"

/-- An option has no value, or an empty one where there is a choice. -/
def missingValueMessage (option : String) : String :=
  "a value is required for " ++ quoted .fault option ++ " but none was supplied"

/-- An option has a value that it does not take. -/
def invalidValueMessage (option value : String) : String :=
  "invalid value " ++ quoted .fault value ++ " for " ++ quoted .name option

/-- What is reported, with styles for a terminal. -/
def message : UsageError → String
  | .unknownArgument argument => "unexpected argument " ++ quoted .fault argument ++ " found"
  | .unknownCommand name => "unrecognized subcommand " ++ quoted .fault name
  | .missingValue option => missingValueMessage option
  | .notAChoice option value =>
    if value.isEmpty then missingValueMessage option else invalidValueMessage option value
  | .malformedValue option value reason => invalidValueMessage option value ++ ": " ++ reason
  | .repeatedOption option =>
    "the argument " ++ quoted .fault option ++ " cannot be used multiple times"
  | .unexpectedValue option value =>
    "unexpected value " ++ quoted .fault value ++ " for " ++ quoted .name option ++
      " found; no more were expected"

end UsageError

/-- Why options are not read to their end. -/
inductive Stop where
  | usage (error : UsageError)
  | help
  deriving DecidableEq, Inhabited

/-- An argument by its form. -/
inductive Argument where
  /-- Two dashes, after which no options follow. -/
  | separator
  /-- `--name` or `--name=value`. -/
  | long (name : String) (value : Option String)
  /-- A dash and letters, of which the first is given. -/
  | short (letter : Char)
  | plain (text : String)
  deriving DecidableEq, Inhabited

/-- The form of an argument. -/
def Argument.ofText (text : String) : Argument :=
  match text.toList with
  | ['-', '-'] => .separator
  | '-' :: '-' :: rest =>
    match Text.cutFirst? ['='] rest with
    | some (name, value) => .long (String.ofList name) (some (String.ofList value))
    | none => .long (String.ofList rest) none
  | '-' :: letter :: _ => .short letter
  | _ => .plain text

/-- How far options have been read. -/
structure Progress (α : Type) where
  settings : α
  /-- The names of the options that were entered. -/
  given : List String := []
  /-- The last option, not entered yet, and its value if it has been met. -/
  pending : Option (OptionSpec α × Option String) := none
  onlyPlain : Bool := false

namespace Progress

variable {α : Type}

/-- Enter a value of an option. -/
def enter (p : Progress α) (o : OptionSpec α) (value : String) :
    Except UsageError (Progress α) :=
  match o.set value p.settings with
  | .ok settings => .ok { p with settings, given := o.name :: p.given }
  | .error .notAChoice => .error (.notAChoice o.label value)
  | .error (.malformed reason) => .error (.malformedValue o.label value reason)

/-- Enter an option of the command line, which comes once and, unless it is a
switch, with a value. -/
def give (p : Progress α) (o : OptionSpec α) (value : Option String) :
    Except UsageError (Progress α) :=
  match value, o.takesValue with
  | none, true => .error (.missingValue o.label)
  | value, _ =>
    if p.given.contains o.name then .error (.repeatedOption o.label)
    else p.enter o (value.getD "true")

/-- Enter the option that is pending. -/
def settle (p : Progress α) : Except UsageError (Progress α) :=
  match p.pending with
  | none => .ok p
  | some (o, value) => { p with pending := none }.give o value

/-- Read the long form of an option. -/
def readLong (p : Progress α) (specs : List (OptionSpec α)) (name : String)
    (value : Option String) : Except Stop (Progress α) :=
  match specs.find? (·.name = name), value with
  | some o, value =>
    if o.takesValue then
      match value with
      | some value => do
        ((← p.settle.mapError .usage).give o (some value)).mapError .usage
      | none => do
        return { ← p.settle.mapError Stop.usage with pending := some (o, none) }
    else
      match value with
      | some value => .error (.usage (.unexpectedValue o.label value))
      | none => do
        ((← p.settle.mapError .usage).give o none).mapError .usage
  | none, value =>
    if name = "help" then
      match value with
      | some value => .error (.usage (.unexpectedValue "--help" value))
      | none => do
        let _ ← p.settle.mapError Stop.usage
        throw .help
    else .error (.usage (.unknownArgument ("--" ++ name)))

/-- Read one argument. -/
def read (specs : List (OptionSpec α)) (p : Progress α) (argument : String) :
    Except Stop (Progress α) :=
  if p.onlyPlain then .error (.usage (.unknownArgument argument))
  else
    match Argument.ofText argument with
    | .separator => .ok { p with onlyPlain := true }
    | .long name value => p.readLong specs name value
    | .short letter =>
      if letter = 'h' then do
        let _ ← p.settle.mapError Stop.usage
        throw .help
      else .error (.usage (.unknownArgument (String.ofList ['-', letter])))
    | .plain text =>
      match p.pending with
      | some (o, none) => .ok { p with pending := some (o, some text) }
      | _ => .error (.usage (.unknownArgument text))

/-- Let an environment variable stand in for an option that was not given. -/
def fill (environment : Environment) (p : Progress α) (o : OptionSpec α) :
    Except UsageError (Progress α) :=
  if p.given.contains o.name then .ok p
  else
    match environment.lookup o.envName with
    | some value => p.enter o value
    | none => .ok p

end Progress

/-- The settings after the arguments and then the environment have been read. -/
def readOptions {α : Type} (specs : List (OptionSpec α)) (environment : Environment)
    (initial : α) (arguments : List String) : Except Stop α := do
  let p ← arguments.foldlM (Progress.read specs) { settings := initial }
  let p ← p.settle.mapError .usage
  let p ← (specs.foldlM (Progress.fill environment) p).mapError .usage
  return p.settings

end SqlOperator.CommandLine
