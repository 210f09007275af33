import SqlOperator.Keys.PrivateKey
import SqlOperator.Verdict

/-!
# Log events

What the operator logs, each event with its level, its message and its fields.
-/

namespace SqlOperator

/-- How grave an event is, from the least to the most. -/
inductive LogLevel where
  | trace
  | debug
  | info
  | warn
  | error
  deriving DecidableEq, Inhabited, Repr

def LogLevel.name : LogLevel → String
  | .trace => "TRACE"
  | .debug => "DEBUG"
  | .info => "INFO"
  | .warn => "WARN"
  | .error => "ERROR"

/-- Why a controller reports an error. -/
inductive ControllerFault where
  /-- The reconcile of an object failed. -/
  | reconcileFailed (kind : Kind) (name : String) («namespace» : Option String)
  /-- The objects could not be listed or watched. -/
  | eventQueue
  deriving DecidableEq, Inhabited

/-- What the log says of a fault. -/
def ControllerFault.text : ControllerFault → String
  | .reconcileFailed kind name ns =>
    "reconciler for object " ++ kind.name ++ "." ++ kind.version ++ "." ++ kind.group ++ "/" ++
      name ++ (match ns with | some ns => "." ++ ns | none => "") ++ " failed"
  | .eventQueue => "event queue error"

/-- An event of the log, with the data that its fields show. -/
inductive Event where
  | reconcilingCertificate (secret : ObjectKey)
  | reconcilingInstance (policy : ObjectKey) (addresses : List String)
  | reconcilingUser (secret : ObjectKey) (envPrefix database : String)
  | keyNotConverted (error : ConversionError)
  | reconciled (operation : Operation) (resource : String)
  | nothingToReconcile (reason : Cause)
  | requeueing (failure : Failure)
  | reconcileFailed (failure : Failure)
  | startingControllers («namespace» : Option String) (concurrency : Nat)
  | controllersStopped
  | reconcileFinished (kind : Kind) (name : String) («namespace» : Option String)
      (action : Action)
  | controllerError (kind : Kind) (fault : ControllerFault)
  deriving DecidableEq, Inhabited

namespace Event

/-- Only a permanent failure is an error. Other trouble is a warning, and an outcome is
a detail. -/
def level : Event → LogLevel
  | .reconcilingCertificate _ | .reconcilingInstance .. | .reconcilingUser ..
  | .startingControllers .. | .controllersStopped => .info
  | .reconciled .. | .nothingToReconcile _ | .reconcileFinished .. => .debug
  | .keyNotConverted _ | .requeueing _ | .controllerError .. => .warn
  | .reconcileFailed _ => .error

/-- The message of an event, which no data goes into. -/
def message : Event → String
  | .reconcilingCertificate _ => "reconciling SQLSSLCert"
  | .reconcilingInstance .. => "reconciling SQLInstance"
  | .reconcilingUser .. => "reconciling SQLUser"
  | .keyNotConverted _ => "failed to convert private key to PKCS#8 DER"
  | .reconciled .. => "reconciled"
  | .nothingToReconcile _ => "nothing to reconcile"
  | .requeueing _ => "requeueing after temporary failure"
  | .reconcileFailed _ => "reconcile failed"
  | .startingControllers .. => "starting controllers"
  | .controllersStopped => "controllers stopped"
  | .reconcileFinished .. => "reconcile finished"
  | .controllerError .. => "controller error"

/-- A field for the namespace, if there is one. -/
def namespaceField : Option String → List (String × String)
  | some ns => [("namespace", ns)]
  | none => []

/-- The texts in quotes, in brackets. -/
def quotedList (texts : List String) : String :=
  "[" ++ ", ".intercalate (texts.map Text.Quoted.quote) ++ "]"

/-- The data of an event as named texts, in the order in which they are shown. -/
def fields : Event → List (String × String)
  | .reconcilingCertificate secret => [("secret", secret.render)]
  | .reconcilingInstance policy addresses =>
    [("policy", policy.render), ("ips", quotedList addresses)]
  | .reconcilingUser secret envPrefix database =>
    [("secret", secret.render), ("prefix", envPrefix), ("database", database)]
  | .keyNotConverted error => [("error", error.message)]
  | .reconciled operation resource => [("operation", operation.text), ("resource", resource)]
  | .nothingToReconcile reason => [("reason", reason.text)]
  | .requeueing failure | .reconcileFailed failure => [("error", failure.text)]
  | .startingControllers ns concurrency =>
    [("namespace", ns.getD "<all>"), ("concurrency", toString concurrency)]
  | .controllersStopped => []
  | .reconcileFinished kind name ns action =>
    [("kind", kind.name), ("name", name)] ++ namespaceField ns ++ [("action", action.text)]
  | .controllerError kind fault => [("kind", kind.name), ("error", fault.text)]

end Event

end SqlOperator
