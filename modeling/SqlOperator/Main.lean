import SqlOperator.Launch

/-!
# The program

Reads the command line and the environment, prints what the launch comes to and
ends with its code.
-/

open SqlOperator

/-- The environment variables that the program looks at. -/
def relevantVariables : List String :=
  Settings.options.map (·.envName) ++
    ["RUST_LOG", "KUBERNETES_SERVICE_HOST", "KUBERNETES_SERVICE_PORT", "CLICOLOR_FORCE",
      "NO_COLOR"]

/-- The relevant variables that are set, with their values. -/
def readEnvironment : IO CommandLine.Environment :=
  relevantVariables.filterMapM fun name => do
    return (← IO.getEnv name).map (name, ·)

/-- Print what the launch comes to, and end with its code. -/
def main (arguments : List String) : IO UInt32 := do
  let environment ← readEnvironment
  let result := Launch.exit environment (CommandLine.Command.read environment arguments)
  (← IO.getStdout).putStr result.stdout
  (← IO.getStderr).putStr result.stderr
  return result.code
