import SqlOperator.Settings

/-!
# Commands

The first argument names a command: run the controllers, print the definitions
of the SQL resources, or help. Everything after it belongs to the command.
-/

namespace SqlOperator.CommandLine

/-- The name of the program. -/
def programName : String := "sqeletor"

def programVersion : String := "0.1.0"

/-- What there is help on. -/
inductive Topic where
  | program
  | run
  | definitions
  | help
  deriving DecidableEq, Inhabited, Repr

namespace Topic

/-- The name of the command, which the program itself has none of. -/
def command? : Topic → Option String
  | .program => none
  | .run => some "run"
  | .definitions => some "crds"
  | .help => some "help"

/-- The commands as they are listed. -/
def commands : List Topic := [.run, .definitions, .help]

/-- The topic of a command. -/
def ofCommand? (name : String) : Option Topic := commands.find? (·.command? = some name)

/-- What a command does, in one line. -/
def about : Topic → String
  | .program => ""
  | .run => "Run the controllers"
  | .definitions => "Print the CRDs sqeletor reads, for local test clusters"
  | .help => "Print this message or the help of the given subcommand(s)"

end Topic

/-- What a command line asks for. -/
inductive Command where
  | run (settings : Settings)
  | definitions
  | help (topic : Topic)
  | version
  /-- No command was named. -/
  | none
  | misused (error : UsageError)
  deriving DecidableEq

namespace Command

/-- The topic that the arguments of the help command name. -/
def readHelp : List String → Command
  | [] => .help .program
  | name :: more =>
    match Topic.ofCommand? name, more with
    | .none, _ => .misused (.unknownCommand name)
    | some topic, [] => .help topic
    | some _, other :: _ => .misused (.unknownCommand other)

/-- What becomes of a command whose options are not read to their end. -/
def ofStop (topic : Topic) : Stop → Command
  | .usage error => .misused error
  | .help => .help topic

/-- Read the arguments of a command. -/
def readCommand (environment : Environment) (topic : Topic) (arguments : List String) : Command :=
  match topic with
  | .program => .none
  | .help => readHelp arguments
  | .run =>
    match Settings.read environment arguments with
    | .ok settings => .run settings
    | .error stop => ofStop .run stop
  | .definitions =>
    match readOptions ([] : List (OptionSpec Unit)) environment () arguments with
    | .ok () => .definitions
    | .error stop => ofStop .definitions stop

/-- A name in the place of a command, after a separator. -/
def readPlain : List String → Command
  | [] => .none
  | name :: _ =>
    if (Topic.ofCommand? name).isSome then .misused (.unknownArgument name)
    else .misused (.unknownCommand name)

/-- An option in the place of a command. -/
def readOption (name : String) (value : Option String) : Command :=
  if name = "help" ∨ name = "version" then
    match value with
    | some value => .misused (.unexpectedValue ("--" ++ name) value)
    | .none => if name = "help" then .help .program else .version
  else .misused (.unknownArgument ("--" ++ name))

/-- Read a command line. -/
def read (environment : Environment) : List String → Command
  | [] => .none
  | first :: rest =>
    match Topic.ofCommand? first with
    | some topic => readCommand environment topic rest
    | .none =>
      match Argument.ofText first with
      | .separator => readPlain rest
      | .long name value => readOption name value
      | .short letter =>
        if letter = 'h' then .help .program
        else if letter = 'V' then .version
        else .misused (.unknownArgument (String.ofList ['-', letter]))
      | .plain text => .misused (.unknownCommand text)

end Command

end SqlOperator.CommandLine
