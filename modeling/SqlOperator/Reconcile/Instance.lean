import SqlOperator.Upsert

/-!
# Reconciling instances

The pods of an application may send traffic to the addresses of its instance:
an instance becomes a network policy with one egress rule for each of them.
-/

namespace SqlOperator.Instance

/-- The kinds of addresses that pods are let through to. -/
def reachableTypes : List String := ["PRIMARY", "PRIVATE"]

/-- The address of an entry, if it is one that pods are let through to. -/
def reachable? (a : InstanceAddress) : Option String :=
  if a.type.any fun type => reachableTypes.contains type then a.address else none

/-- The addresses that pods are let through to, in ascending order. -/
def egressAddresses (i : Instance) : List String :=
  (((i.status.map (·.addresses)).getD []).filterMap reachable?).mergeSort fun a b =>
    (compare a b).isLE

/-- Traffic to one address. -/
def egressRule (address : String) : EgressRule where
  destinations := some [{ ipBlock := some { cidr := address ++ "/32" } }]

/-- The application that the instance belongs to, empty if it is unknown. -/
def app (i : Instance) : String := (i.metadata.label? Label.app).getD ""

/-- Egress from the pods of an application. -/
def policySpec (app : String) (addresses : List String) : PolicySpec where
  podSelector := { matchLabels := some (.ofList [(Label.app, app)]) }
  policyTypes := some ["Egress"]
  egress := some (addresses.map egressRule)

/-- Shape the network policy of an instance. -/
def shapePolicy (i : Instance) (addresses : List String) : Mutation .policy :=
  fun policy presence => do
    let claimed ← (policy.metadata.claim presence (Kind.ownerReference .sqlInstance i)).mapError
      Failure.ofOwnership
    return {
      metadata := claimed.inheritFrom i.metadata
      spec := some (policySpec i.app addresses) }

/-- The name of the network policy. -/
def policyName (i : Instance) (resourceId : String) : String :=
  "sql-" ++ i.metadata.anyName ++ "-" ++ resourceId

/-- Bring the network policy of an instance in line with its addresses. -/
def reconcile (now : Timestamp) (key : ObjectKey) : Task Operation := do
  let i ← Task.require (← Task.ask (.get .sqlInstance key)) (.sourceMissing .sqlInstance)
  let resourceId ← Task.require i.spec.resourceId .noResourceId
  let addresses := i.egressAddresses
  if addresses.isEmpty then throw (.ofObstacle .noAddress)
  let target : ObjectKey := ⟨key.namespace, i.policyName resourceId⟩
  Task.note (.reconcilingInstance target addresses)
  upsert now .policy target (i.shapePolicy addresses)

end SqlOperator.Instance
