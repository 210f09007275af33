import SqlOperator.CommandLine.Help
import SqlOperator.Controller
import SqlOperator.LogFilter
import SqlOperator.Net.Uri
import SqlOperator.Schema.Definition
import SqlOperator.Yaml

/-!
# Launching the program

What the program prints and with which code it ends, for a command line and
environment variables, where no server of a cluster is within reach.
-/

namespace SqlOperator

open CommandLine

/-- Why the operator does not start. -/
inductive LaunchFailure where
  | invalidLogFilter
  /-- A part of the log filter ends within a character. -/
  | tornLogFilter
  /-- The metrics address is not one of this machine. -/
  | metricsUnavailable
  /-- There is no variable that leads to the server of the cluster. -/
  | noServerVariable
  | invalidServerPort (fault : Text.IntegerFault)
  | invalidServerAddress (fault : UriFault)
  /-- The variables are there, but not the files that go with them. -/
  | noServerFiles
  deriving DecidableEq, Inhabited

namespace LaunchFailure

/-- What is reported, with the text of the fault behind it. -/
def message : LaunchFailure → String
  | .invalidLogFilter => "invalid log filter"
  | .tornLogFilter => "a part of the log filter ends within a character"
  | .metricsUnavailable => "failed to install Prometheus exporter"
  | .noServerVariable =>
    "failed to read an incluster environment variable: environment variable not found"
  | .invalidServerPort fault => "failed to parse cluster port: " ++ fault.message
  | .invalidServerAddress fault => "failed to parse cluster url: " ++ fault.message
  | .noServerFiles =>
    "failed to read the default namespace: No such file or directory (os error 2)"

/-- The code that the program ends with. It breaks off where a text cannot be cut. -/
def code : LaunchFailure → UInt32
  | .tornLogFilter => 101
  | _ => 1

/-- What the program reports. A report on breaking off starts on a line of its own. -/
def report : LaunchFailure → String
  | .tornLogFilter => "\n" ++ message .tornLogFilter ++ "\n"
  | failure => "Error: " ++ failure.message ++ "\n"

end LaunchFailure

/-- How the program ends. -/
structure Exit where
  code : UInt32 := 0
  stdout : String := ""
  stderr : String := ""
  deriving DecidableEq, Inhabited

namespace Launch

/-- Whether an address is that of every machine: unspecified, or a loopback address. -/
def isOwnAddress : SocketAddress → Bool
  | .v4 address _ => address = ⟨0, 0, 0, 0⟩ || address.a = 127
  | .v6 address .. => address.groups.dropLast.all (· = 0) && address.groups.getLast?.all (· ≤ 1)

/-- What is wrong with the filter in force: that of the variable if it is a filter, else
that of the settings. -/
def logFilterFailure? (environment : Environment) (s : Settings) : Option LaunchFailure :=
  match (environment.lookup "RUST_LOG").map LogFilter.check with
  | some (.ok ()) => none
  | some (.error .torn) => some .tornLogFilter
  | _ =>
    match LogFilter.check s.logLevel with
    | .ok () => none
    | .error .torn => some .tornLogFilter
    | .error .malformed => some .invalidLogFilter

/-- Why no server of a cluster is reached. -/
def serverFailure (environment : Environment) : LaunchFailure :=
  match environment.lookup "KUBERNETES_SERVICE_HOST",
    environment.lookup "KUBERNETES_SERVICE_PORT" with
  | some host, some port =>
    match Text.parseUInt16 port.toList with
    | .error fault => .invalidServerPort fault
    | .ok port =>
      match Uri.checkSecure (Uri.authority host port) with
      | .error fault => .invalidServerAddress fault
      | .ok () => .noServerFiles
  | _, _ => .noServerVariable

/-- Why the controllers cannot be run with these settings. -/
def runFailure (environment : Environment) (s : Settings) : LaunchFailure :=
  match logFilterFailure? environment s with
  | some failure => failure
  | none =>
    if isOwnAddress s.metricsAddress then serverFailure environment else .metricsUnavailable

/-- The definitions of all SQL resources, one document after the other. -/
def definitions : String :=
  "---\n".intercalate
    (Source.all.map fun s => Yaml.document (Definition.toJson s)) ++ "\n"

/-- Whether texts keep the styles for a terminal although they do not go to one. -/
def keepsStyles (environment : Environment) : Bool :=
  let isSet (name : String) : Bool := (environment.lookup name).any (!·.isEmpty)
  isSet "CLICOLOR_FORCE" && !isSet "NO_COLOR"

/-- A text about the command line as it is printed. -/
def printed (environment : Environment) (text : String) : String :=
  if keepsStyles environment then text else Text.Terminal.plain text

/-- The report on a command line that is not understood. -/
def misuse (error : UsageError) : String :=
  Text.Terminal.styled .alarm "error:" ++ " " ++ error.message ++ "\n"

/-- How the program ends for a command. -/
def exit (environment : Environment) : Command → Exit
  | .run settings =>
    let failure := runFailure environment settings
    { code := failure.code, stderr := failure.report }
  | .definitions => { stdout := definitions }
  | .help topic => { stdout := printed environment (Help.text environment topic) }
  | .version => { stdout := programName ++ " " ++ programVersion ++ "\n" }
  | .none => { code := 2, stderr := printed environment (Help.text environment .program) }
  | .misused error => { code := 2, stderr := printed environment (misuse error) }

/-- The event that opens the log of the controllers. -/
def startEvent (s : Settings) : Event :=
  .startingControllers s.watchNamespace? s.concurrency.toNat

/-- What the controllers log in a time during which no server can be reached. -/
def unreachableLog (s : Settings) (time : Nat) : List Event :=
  startEvent s :: Source.all.flatMap fun source => Controller.unreachable source time

end Launch

end SqlOperator
