import SqlOperator.Cluster.ObjectKey

/-!
# Who owns a target

The operator only changes targets that it manages itself and that have the
source at hand as their one owner. The owner's `uid` is not compared, so that a
source that was deleted and made anew takes over its previous target.
-/

namespace SqlOperator

/-- The identifier of the operator in labels and annotations. -/
def operatorId : String := "sqeletor.nais.io"

namespace Label

/-- Who manages an object. -/
def managedBy : String := "app.kubernetes.io/managed-by"

/-- Marks a target as one of the operator. -/
def type : String := "type"

/-- The application, by which a network policy selects pods. -/
def app : String := "app"

/-- The team of the application. -/
def team : String := "team"

end Label

namespace Annotation

/-- The deployment that an object came with. -/
def correlationId : String := "nais.io/deploymentCorrelationID"

/-- When the operator last changed a target. -/
def lastUpdated : String := "sqeletor.nais.io/last-updated"

/-- The name of the secret for a certificate. -/
def secretName : String := "sqeletor.nais.io/secret-name"

/-- The prefix of the variables for a user. -/
def envVarPrefix : String := "sqeletor.nais.io/env-var-prefix"

/-- The database that a user connects to. -/
def databaseName : String := "sqeletor.nais.io/database-name"

end Annotation

/-- Why a target must not be changed; each names the target. -/
inductive OwnershipFault where
  | notManaged (target : String)
  | noOwner (target : String)
  | multipleOwners (target : String)
  | ownedByOther (target kind name : String)
  deriving DecidableEq, Inhabited

/-- What is wrong with the target, and who owns it instead of the source. -/
def OwnershipFault.message : OwnershipFault → String
  | .notManaged target => target ++ " is not managed by sqeletor"
  | .noOwner target => target ++ " has no owner references"
  | .multipleOwners target => target ++ " has multiple owner references"
  | .ownedByOther target kind name => target ++ " is owned by " ++ kind ++ "/" ++ name

/-- Whether two references name the same object, whatever its `uid`. -/
def OwnerReference.sameObject (a b : OwnerReference) : Bool :=
  a.apiVersion = b.apiVersion && a.kind = b.kind && a.name = b.name

namespace Metadata

/-- The namespace and name as error messages give them. -/
def description (m : Metadata) : String := m.namespace.getD "" ++ "/" ++ m.name.getD ""

/-- Check that the operator manages this target for `owner`. -/
def validateOwnership (target : Metadata) (owner : OwnerReference) :
    Except OwnershipFault Unit :=
  if target.label? Label.managedBy ≠ some operatorId then
    .error (.notManaged target.description)
  else
    match target.ownerReferences.getD [] with
    | [] => .error (.noOwner target.description)
    | [found] =>
      if found.sameObject owner then .ok ()
      else .error (.ownedByOther target.description found.kind found.name)
    | _ => .error (.multipleOwners target.description)

end Metadata

/-- Whether a target was there before. -/
inductive Presence where
  | existing
  | new
  deriving DecidableEq, Inhabited, Repr

namespace Metadata

/-- Take a new target for `owner`, or check that an existing one belongs to it. -/
def claim (target : Metadata) (presence : Presence) (owner : OwnerReference) :
    Except OwnershipFault Metadata :=
  match presence with
  | .new =>
    .ok ({ target with ownerReferences := some [owner] }.setLabel Label.managedBy operatorId)
  | .existing => (target.validateOwnership owner).map fun _ => target

/-- Give the entry under `key` the value it has in `source`, or none. -/
def copyEntry (target : TextMap) (source : Option TextMap) (key : String) : TextMap :=
  match source.bind (·.get? key) with
  | some value => target.insert key value
  | none => target.erase key

/-- Set the type label and take over application, team and correlation identifier
of the source, absent ones included. -/
def inheritFrom (target source : Metadata) : Metadata :=
  let labels := target.labelsOrEmpty.insert Label.type operatorId
  let labels := copyEntry labels source.labels Label.app
  let labels := copyEntry labels source.labels Label.team
  { target with
    labels := some labels
    annotations :=
      some (copyEntry target.annotationsOrEmpty source.annotations Annotation.correlationId) }

end Metadata

end SqlOperator
