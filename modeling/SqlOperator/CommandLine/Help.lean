import SqlOperator.CommandLine.Command
import SqlOperator.Text.Blank
import SqlOperator.Text.Quoted

/-!
# Help texts

Help on the program lists its commands, help on a command its options. An option
is shown with the variable that stands in for it, the present value of that
variable, and its value by default.

## Implementation notes

A help text carries styles for a terminal, which take no room in a column. They
are taken out where the text does not go to a terminal, together with the control
sequences in the values of variables.
-/

namespace SqlOperator.CommandLine.Help

open Text.Terminal (plain styled)

def blanks (n : Nat) : String := String.ofList (List.replicate n ' ')

/-- How many characters of a text are shown. -/
def shownLength (text : String) : Nat := (plain text).length

/-- A line of a table: an entry and what it means, from the same column on in
all lines, also in those that break a meaning. -/
def row (width : Nat) (entry meaning : String) : String :=
  let column := width + 4
  "  " ++ entry ++ blanks (column - 2 - shownLength entry) ++
    ("\n" ++ blanks column).intercalate
      ((Text.fields '\n' meaning.toList).map String.ofList)

/-- The greatest shown length of the texts. -/
def widest (texts : List String) : Nat := texts.foldl (fun n t => max n (shownLength t)) 0

/-- A heading and lines under it. -/
def block (heading : String) (lines : List String) : String :=
  "\n".intercalate (styled .heading (heading ++ ":") :: lines)

/-- A table whose meanings start in the column after its widest entry. -/
def table (heading : String) (rows : List (String × String)) : String :=
  let width := widest (rows.map (·.1))
  block heading (rows.map fun (entry, meaning) => row width entry meaning)

/-- Parts with an empty line between them. -/
def page (parts : List String) : String := "\n\n".intercalate (parts.filter (!·.isEmpty)) ++ "\n"

/-- The entry of the option for help. -/
def helpLabel : String := styled .name "-h" ++ ", " ++ styled .name "--help"

/-- The entry of the option for the version. -/
def versionLabel : String := styled .name "-V" ++ ", " ++ styled .name "--version"

/-- An option's name at the place where those with a short form have theirs. -/
def optionEntry (o : OptionSpec Settings) : String := "    " ++ styled .name o.flag ++ o.valueLabel

/-- A value by default, in quotes where it could not be told from its surroundings. -/
def shownDefault (value : String) : String :=
  if value.isEmpty || value.toList.any Text.isBlank then Text.Quoted.quote value else value

/-- The help of an option with its variable and default. -/
def optionMeaning (environment : Environment) (o : OptionSpec Settings) : String :=
  o.help ++ " [env: " ++ o.envName ++ "=" ++ (environment.lookup o.envName).getD "" ++ "]" ++
    match o.default with
    | some value => " [default: " ++ shownDefault value ++ "]"
    | none => ""

/-- What is written for a topic on the command line. -/
def usageWords : Topic → String
  | .program => styled .name programName ++ " <COMMAND>"
  | .run => styled .name (programName ++ " run") ++ " [OPTIONS]"
  | .definitions => styled .name (programName ++ " crds")
  | .help => styled .name (programName ++ " help") ++ " [COMMAND]..."

/-- The line that shows how a topic is put on the command line. -/
def usage (topic : Topic) : String := styled .heading "Usage:" ++ " " ++ usageWords topic

/-- One row for every command. -/
def commandRows : List (String × String) :=
  Topic.commands.map fun t => (styled .name (t.command?.getD ""), t.about)

/-- One row for every setting, and one for help. -/
def optionRows (environment : Environment) : List (String × String) :=
  Settings.options.map (fun o => (optionEntry o, optionMeaning environment o)) ++
    [(helpLabel, "Print help")]

/-- The parts of the help on a topic. -/
def parts (environment : Environment) (topic : Topic) : List String :=
  match topic with
  | .program =>
    [usage topic, table "Commands" commandRows,
      table "Options" [(helpLabel, "Print help"), (versionLabel, "Print version")]]
  | .run => [topic.about, usage topic, table "Options" (optionRows environment)]
  | .definitions => [topic.about, usage topic, table "Options" [(helpLabel, "Print help")]]
  | .help =>
    [topic.about, usage topic,
      table "Arguments" [("[COMMAND]...", "Print help for the subcommand(s)")]]

/-- The help on a topic. -/
def text (environment : Environment) (topic : Topic) : String :=
  page (parts environment topic)

end SqlOperator.CommandLine.Help
