import SqlOperator.Cluster.Kind
import SqlOperator.Net.Url
import SqlOperator.Ownership
import SqlOperator.Text.Quoted

/-!
# Failures

A reconcile that does not end in an operation ends in a failure. The kind of a
failure decides what follows: a temporary one is tried again later, a permanent
one is surfaced and waits for a change, an ignorable one counts as nothing to
do. The cause says what went wrong, whatever its kind.
-/

namespace SqlOperator

/-- An error that the server reports. -/
structure ApiError where
  status : String
  message : String
  reason : String
  code : UInt16
  deriving DecidableEq, Inhabited

/-- The message and reason, then all parts with their texts in quotes. -/
def ApiError.text (e : ApiError) : String :=
  "ApiError: " ++ e.message ++ ": " ++ e.reason ++ " (ErrorResponse \x7b status: " ++
    Text.Quoted.quote e.status ++ ", message: " ++ Text.Quoted.quote e.message ++
    ", reason: " ++ Text.Quoted.quote e.reason ++ ", code: " ++ toString e.code.toNat ++ " \x7d)"

/-- Why a call to a store has no answer. -/
inductive StoreError where
  | api (error : ApiError)
  | connection (text : String)
  | undecodable
  | unbuildable
  deriving DecidableEq, Inhabited

/-- The error as messages show it; one of the server is shown with all its parts. -/
def StoreError.text : StoreError → String
  | .api error => error.text
  | .connection text => "ServiceError: " ++ text
  | .undecodable => "Error deserializing response"
  | .unbuildable => "Failed to build request"

/-- What follows from a failure: another attempt, a report, or nothing. -/
inductive FailureKind where
  | temporary
  | permanent
  | ignorable
  deriving DecidableEq, Inhabited, Repr

/-- The words that a message about a failure starts with. -/
def FailureKind.text : FailureKind → String
  | .temporary => "temporary failure"
  | .permanent => "permanent failure"
  | .ignorable => "ignored"

/-- A condition for reconciling a source that is not met. -/
inductive Obstacle where
  | sourceMissing (kind : Kind)
  | noSecretName
  | noEnvVarPrefix
  | noDatabaseName
  | certificateNotReady (cert privateKey serverCaCert : Bool)
  | noResourceId
  | noAddress
  | noPasswordRef
  | instanceMissing (key : ObjectKey)
  | notPrivate
  | noPrivateAddress
  | passwordKeyMismatch (found expected : String)
  deriving DecidableEq, Inhabited

namespace Obstacle

/-- What the operator has no part in is ignorable, what other parties still have
to provide is temporary, and what is wrong in the source is permanent. -/
def kind : Obstacle → FailureKind
  | .sourceMissing _ | .noSecretName | .noEnvVarPrefix | .noDatabaseName => .ignorable
  | .certificateNotReady .. | .noResourceId | .noAddress | .instanceMissing _
  | .noPrivateAddress => .temporary
  | .noPasswordRef | .notPrivate | .passwordKeyMismatch .. => .permanent

/-- What is not met, with the names and values that tell what to look for. -/
def text : Obstacle → String
  | .sourceMissing kind => kind.name ++ " not found"
  | .noSecretName => "secret name annotation not found"
  | .noEnvVarPrefix => "env var prefix annotation not found"
  | .noDatabaseName => "database name annotation not found"
  | .certificateNotReady cert privateKey serverCaCert =>
    "cert not ready: status.cert: " ++ toString cert ++ ", status.privateKey: " ++
      toString privateKey ++ ", status.serverCaCert: " ++ toString serverCaCert
  | .noResourceId => "SQLInstance has no resource ID"
  | .noAddress => "SQLInstance has no IP address"
  | .noPasswordRef => "password secret ref not properly set"
  | .instanceMissing key => "referenced sql instance " ++ key.render ++ " not found"
  | .notPrivate => "referenced sql instance is not configured for private ip"
  | .noPrivateAddress => "referenced sql instance does not have a private ip"
  | .passwordKeyMismatch found expected =>
    "secret key " ++ found ++ " does not match expected key " ++ expected

end Obstacle

/-- What went wrong. -/
inductive Cause where
  | store (error : StoreError)
  | ownership (fault : OwnershipFault)
  | url (error : UrlError)
  | unmet (obstacle : Obstacle)
  | message (text : String)
  deriving DecidableEq, Inhabited

/-- What went wrong, with the text of the error behind it. -/
def Cause.text : Cause → String
  | .store error => "kubernetes api error: " ++ error.text
  | .ownership fault => fault.message
  | .url error => "failed to build connection url: " ++ error.message
  | .unmet obstacle => obstacle.text
  | .message text => text

/-- How a reconcile failed: what follows from it, and what went wrong. -/
structure Failure where
  kind : FailureKind
  cause : Cause
  deriving DecidableEq, Inhabited

namespace Failure

/-- The kind, and then the cause. -/
def text (f : Failure) : String := f.kind.text ++ ": " ++ f.cause.text

/-- Every error of a store is worth another attempt. -/
def ofStore (error : StoreError) : Failure := ⟨.temporary, .store error⟩

/-- A target of someone else stays so until someone changes it. -/
def ofOwnership (fault : OwnershipFault) : Failure := ⟨.permanent, .ownership fault⟩

/-- Values that make no URL stay so until someone changes them. -/
def ofUrl (error : UrlError) : Failure := ⟨.permanent, .url error⟩

/-- The obstacle decides what follows. -/
def ofObstacle (obstacle : Obstacle) : Failure := ⟨obstacle.kind, .unmet obstacle⟩

end Failure

end SqlOperator
