import SqlOperator.CommandLine.Options
import SqlOperator.Credentials.Files
import SqlOperator.Net.SocketAddress
import SqlOperator.Text.Integer

/-!
# Settings

How the operator is run, and the options that change it.
-/

namespace SqlOperator

/-- The options of the operator, with what they are when nothing is said. -/
structure Settings where
  «namespace» : String := ""
  concurrency : UInt16 := 4
  metricsAddress : SocketAddress := .v4 ⟨0, 0, 0, 0⟩ 8080
  mountPath : String := defaultMountPath
  legacyFiles : Bool := false
  logLevel : String := "info"
  logJson : Bool := false
  deriving DecidableEq

namespace Settings

instance : Inhabited Settings := ⟨{}⟩

/-- The one namespace that is watched, if not all are. -/
def watchNamespace? (s : Settings) : Option String :=
  if s.namespace.isEmpty then none else some s.namespace

/-- The layout that the switch for the older file names stands for. -/
def fileLayout (s : Settings) : FileLayout := .ofFlag s.legacyFiles

/-- The files where workloads find them. -/
def filePaths (s : Settings) : FilePaths := .ofMount s.mountPath s.fileLayout

open CommandLine

/-- A switch is on or off. -/
def readSwitch (text : String) : Except ValueFault Bool :=
  if text = "true" then .ok true
  else if text = "false" then .ok false
  else .error .notAChoice

/-- A number of 16 bits; a greater or negative one is a fault of its own. -/
def readConcurrency (text : String) : Except ValueFault UInt16 :=
  match Text.parseInt64 text.toList with
  | .error fault => .error (.malformed fault.message)
  | .ok n =>
    if 0 ≤ n ∧ n ≤ 65535 then .ok (UInt16.ofNat n.toNat)
    else .error (.malformed (toString n ++ " is not in 0..=65535"))

/-- A literal with a port. Names of hosts are not looked up. -/
def readAddress (text : String) : Except ValueFault SocketAddress :=
  match SocketAddress.parse? text with
  | some address => .ok address
  | none => .error (.malformed "invalid socket address syntax")

/-- The options of the operator in the order in which they are shown. -/
def options : List (OptionSpec Settings) :=
  [{ name := "namespace"
     envName := "WATCH_NAMESPACE"
     takesValue := true
     help := "Namespace to watch (empty for cluster-wide)"
     default := some ""
     set := fun text s => .ok { s with «namespace» := text } },
   { name := "concurrency"
     envName := "RECONCILE_CONCURRENCY"
     takesValue := true
     help := "Maximum concurrent reconciles per controller"
     default := some "4"
     set := fun text s => (readConcurrency text).map fun n => { s with concurrency := n } },
   { name := "metrics-addr"
     envName := "METRICS_ADDR"
     takesValue := true
     help := "Prometheus metrics listen address"
     default := some "0.0.0.0:8080"
     set := fun text s => (readAddress text).map fun a => { s with metricsAddress := a } },
   { name := "mount-path"
     envName := "SQELETOR_MOUNT_PATH"
     takesValue := true
     help := "Path workloads mount the certificate secret at"
     default := some defaultMountPath
     set := fun text s => .ok { s with mountPath := text } },
   { name := "legacy-cert-keys"
     envName := "LEGACY_CERT_KEYS"
     takesValue := false
     help :=
       "Write `private-key.pem` and `server-ca-cert.pem` instead of `key.pem` and `root-cert.pem`"
     default := none
     set := fun text s => (readSwitch text).map fun b => { s with legacyFiles := b } },
   { name := "log-level"
     envName := "LOG_LEVEL"
     takesValue := true
     help := "Default log filter when RUST_LOG is unset"
     default := some "info"
     set := fun text s => .ok { s with logLevel := text } },
   { name := "log-json"
     envName := "LOG_JSON"
     takesValue := false
     help := "Log as JSON"
     default := none
     set := fun text s => (readSwitch text).map fun b => { s with logJson := b } }]

/-- The settings of a command line. -/
def read (environment : Environment) (arguments : List String) : Except Stop Settings :=
  readOptions options environment {} arguments

end Settings

end SqlOperator
