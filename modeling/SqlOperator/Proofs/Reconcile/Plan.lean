import SqlOperator.Proofs.Upsert.Stages
import SqlOperator.Reconcile

/-!
# Plans

A reconcile reads its source, and a user's instance, checks them, and then carries
out a plan: it logs, and upserts one target with one mutation. The plan is a
function of what was read. The three reconciles differ in their plans only.

## Implementation notes

`Certificate.plan`, `Instance.plan` and `User.plan` hold the checks in the order
in which the reconciles make them; `Source.task_eq` says that the reconciles are
what is put together from the plans.
-/

namespace SqlOperator

/-- What is left to do when everything was read and checked. -/
structure Plan (kind : Kind) where
  notes : List Event
  target : ObjectKey
  mutate : Mutation kind

/-- A value that has to be there. -/
def required {α : Type} (value : Option α) (obstacle : Obstacle) : Except Failure α :=
  match value with
  | some value => .ok value
  | none => .error (.ofObstacle obstacle)

theorem pure_eq_ok {ε α : Type} {a b : α} : (pure a : Except ε α) = .ok b ↔ b = a :=
  ⟨fun h => (Except.ok.inj h).symm, fun h => h ▸ rfl⟩

theorem required_bind_eq_ok {α β : Type} {value : Option α} {obstacle : Obstacle}
    {f : α → Except Failure β} {b : β} :
    required value obstacle >>= f = .ok b ↔ ∃ a, value = some a ∧ f a = .ok b := by
  cases value with
  | none => exact ⟨nofun, nofun⟩
  | some a =>
    constructor
    · exact fun h => ⟨a, rfl, h⟩
    · rintro ⟨c, hc, h⟩
      exact Option.some.inj hc ▸ h

namespace Task

variable {α β : Type}

/-- Log events in order. -/
def announce : List Event → Task Unit
  | [] => pure ()
  | event :: rest => do
    note event
    announce rest

theorem lift_required (value : Option α) (obstacle : Obstacle) :
    lift (required value obstacle) = require value obstacle := by
  cases value <;> rfl

theorem lift_bind (result : Except Failure α) (f : α → Except Failure β) :
    lift (result >>= f) = lift result >>= fun a => lift (f a) := by
  cases result <;> rfl

end Task

/-- Log what the plan says and bring its target in line. -/
def Plan.carryOut {kind : Kind} (plan : Plan kind) (now : Timestamp) : Task Operation := do
  Task.announce plan.notes
  upsert now kind plan.target plan.mutate

namespace Certificate

/-- What is left to do when all parts of a certificate are there. -/
def planFor (c : Certificate) (layout : FileLayout) (target : ObjectKey) (issued : Issued) :
    Plan .secret :=
  match PrivateKey.toPkcs8 issued.privateKey with
  | .ok der =>
    ⟨[.reconcilingCertificate target], target, c.shapeSecret (secretData layout issued der)⟩
  | .error e =>
    ⟨[.keyNotConverted e, .reconcilingCertificate target], target,
      c.shapeSecret (secretData layout issued none)⟩

/-- The plan for an issued certificate. -/
def plan (c : Certificate) (layout : FileLayout) (ns : String) :
    Except Failure (Plan .secret) := do
  let name ← required (c.metadata.annotation? Annotation.secretName) .noSecretName
  let issued ← required c.issued? c.notReady
  return c.planFor layout ⟨ns, name⟩ issued

theorem target_planFor (c : Certificate) (layout : FileLayout) (target : ObjectKey)
    (issued : Issued) : (c.planFor layout target issued).target = target := by
  unfold planFor
  cases PrivateKey.toPkcs8 issued.privateKey <;> rfl

theorem mutate_planFor (c : Certificate) (layout : FileLayout) (target : ObjectKey)
    (issued : Issued) :
    (c.planFor layout target issued).mutate =
      c.shapeSecret (secretData layout issued (PrivateKey.toPkcs8 issued.privateKey).toOption) := by
  unfold planFor
  cases PrivateKey.toPkcs8 issued.privateKey <;> rfl

theorem plan_eq_ok {c : Certificate} {layout : FileLayout} {ns : String} {p : Plan .secret} :
    c.plan layout ns = .ok p ↔
      ∃ name issued, c.metadata.annotation? Annotation.secretName = some name ∧
        c.issued? = some issued ∧ p = c.planFor layout ⟨ns, name⟩ issued := by
  refine required_bind_eq_ok.trans (exists_congr fun name => ?_)
  rw [required_bind_eq_ok, ← exists_and_left]
  exact exists_congr fun issued => and_congr_right fun _ => and_congr_right fun _ => pure_eq_ok

/-- A reconcile gets the certificate, makes a plan without calls, and carries it out. -/
theorem reconcile_eq (layout : FileLayout) (now : Timestamp) (key : ObjectKey) :
    reconcile layout now key = (do
      let c ← Task.require (← Task.ask (.get .certificate key)) (.sourceMissing .certificate)
      let p ← Task.lift (c.plan layout key.namespace)
      p.carryOut now) := by
  unfold reconcile plan
  simp only [Task.lift_bind, Task.lift_required, bind_assoc]
  refine congrArg _ (funext fun found => congrArg _ (funext fun c => ?_))
  refine congrArg _ (funext fun name => congrArg _ (funext fun issued => ?_))
  unfold convertKey planFor
  cases PrivateKey.toPkcs8 issued.privateKey with
  | ok der => rfl
  | error e => rfl

end Certificate

namespace Instance

/-- The plan for an instance with addresses. -/
def plan (i : Instance) (ns : String) : Except Failure (Plan .policy) := do
  let resourceId ← required i.spec.resourceId .noResourceId
  let target : ObjectKey := ⟨ns, i.policyName resourceId⟩
  if i.egressAddresses.isEmpty then .error (.ofObstacle .noAddress)
  else
    return ⟨[.reconcilingInstance target i.egressAddresses], target,
      i.shapePolicy i.egressAddresses⟩

theorem plan_eq_ok {i : Instance} {ns : String} {p : Plan .policy} :
    i.plan ns = .ok p ↔
      ∃ resourceId, i.spec.resourceId = some resourceId ∧ i.egressAddresses.isEmpty = false ∧
        p = ⟨[.reconcilingInstance ⟨ns, i.policyName resourceId⟩ i.egressAddresses],
          ⟨ns, i.policyName resourceId⟩, i.shapePolicy i.egressAddresses⟩ := by
  refine required_bind_eq_ok.trans (exists_congr fun resourceId => and_congr_right fun _ => ?_)
  cases i.egressAddresses.isEmpty with
  | true => exact ⟨nofun, fun h => nomatch h.1⟩
  | false => exact pure_eq_ok.trans ⟨fun h => ⟨rfl, h⟩, And.right⟩

theorem reconcile_eq (now : Timestamp) (key : ObjectKey) :
    reconcile now key = (do
      let i ← Task.require (← Task.ask (.get .sqlInstance key)) (.sourceMissing .sqlInstance)
      let p ← Task.lift (i.plan key.namespace)
      p.carryOut now) := by
  unfold reconcile plan
  simp only [Task.lift_bind, Task.lift_required, bind_assoc]
  refine congrArg _ (funext fun found => congrArg _ (funext fun i => ?_))
  refine congrArg _ (funext fun resourceId => ?_)
  cases i.egressAddresses.isEmpty <;> rfl

end Instance

namespace User

/-- What a user itself says about its connection. -/
structure Order where
  envPrefix : String
  database : String
  ref : SecretKeyRef

/-- The checks that need no instance. -/
def order (u : User) : Except Failure Order := do
  let envPrefix ← required (u.metadata.annotation? Annotation.envVarPrefix) .noEnvVarPrefix
  let database ← required (u.metadata.annotation? Annotation.databaseName) .noDatabaseName
  let ref ← required u.passwordSecretRef? .noPasswordRef
  return ⟨envPrefix, database, ref⟩

/-- The plan for a user of a given instance. -/
def plan (u : User) (paths : FilePaths) (seed : PasswordSeed) (ns : String) (o : Order)
    (i : Instance) : Except Failure (Plan .secret) :=
  if i.privateNetworkRef?.isNone then .error (.ofObstacle .notPrivate)
  else do
    let host ← required i.privateAddress? .noPrivateAddress
    let access : Access := ⟨o.envPrefix, host, o.database, u.username, paths⟩
    if o.ref.key = access.passwordKey then
      return ⟨[.reconcilingUser ⟨ns, o.ref.name⟩ o.envPrefix o.database], ⟨ns, o.ref.name⟩,
        u.shapeSecret access seed⟩
    else .error (.ofObstacle (.passwordKeyMismatch o.ref.key access.passwordKey))

theorem order_eq_ok {u : User} {o : Order} (h : u.order = .ok o) :
    u.metadata.annotation? Annotation.envVarPrefix = some o.envPrefix ∧
      u.metadata.annotation? Annotation.databaseName = some o.database ∧
      u.passwordSecretRef? = some o.ref := by
  obtain ⟨envPrefix, hp, h⟩ := required_bind_eq_ok.mp h
  obtain ⟨database, hd, h⟩ := required_bind_eq_ok.mp h
  obtain ⟨ref, hr, h⟩ := required_bind_eq_ok.mp h
  obtain rfl := Except.ok.inj h
  exact ⟨hp, hd, hr⟩

theorem plan_eq_ok {u : User} {paths : FilePaths} {seed : PasswordSeed} {ns : String}
    {o : Order} {i : Instance} {p : Plan .secret} :
    u.plan paths seed ns o i = .ok p ↔
      i.privateNetworkRef?.isNone = false ∧ ∃ host, i.privateAddress? = some host ∧
        o.ref.key = Connection.variableName o.envPrefix "PASSWORD" ∧
        p = ⟨[.reconcilingUser ⟨ns, o.ref.name⟩ o.envPrefix o.database], ⟨ns, o.ref.name⟩,
          u.shapeSecret ⟨o.envPrefix, host, o.database, u.username, paths⟩ seed⟩ := by
  unfold plan
  cases i.privateNetworkRef?.isNone with
  | true => exact ⟨nofun, fun h => nomatch h.1⟩
  | false =>
    refine required_bind_eq_ok.trans (Iff.trans ?_ ⟨fun h => ⟨rfl, h⟩, And.right⟩)
    refine exists_congr fun host => and_congr_right fun _ => ?_
    by_cases hk : o.ref.key = Connection.variableName o.envPrefix "PASSWORD"
    · simp only [Access.passwordKey, hk, if_true, true_and]
      exact pure_eq_ok
    · simp [Access.passwordKey, hk]

/-- The order of a user comes first, and the plan takes the instance that the order is for. -/
theorem reconcile_eq (paths : FilePaths) (now : Timestamp) (seed : PasswordSeed)
    (key : ObjectKey) :
    reconcile paths now seed key = (do
      let u ← Task.require (← Task.ask (.get .user key)) (.sourceMissing .user)
      let o ← Task.lift u.order
      let iKey := u.instanceKey key.namespace
      let i ← Task.require (← Task.ask (.get .sqlInstance iKey)) (.instanceMissing iKey)
      let p ← Task.lift (u.plan paths seed key.namespace o i)
      p.carryOut now) := by
  unfold reconcile order plan readAddress
  simp only [Task.lift_bind, Task.lift_required, bind_assoc]
  refine congrArg _ (funext fun found => congrArg _ (funext fun u => ?_))
  refine congrArg _ (funext fun envPrefix => congrArg _ (funext fun database => ?_))
  refine congrArg _ (funext fun ref => congrArg _ (funext fun answer => ?_))
  refine congrArg _ (funext fun i => ?_)
  cases i.privateNetworkRef?.isNone with
  | true => rfl
  | false =>
    cases i.privateAddress? with
    | none => rfl
    | some host =>
      by_cases hk : ref.key = Connection.variableName envPrefix "PASSWORD"
      · simp only [Access.passwordKey, hk, ne_eq, not_true_eq_false, if_false]
        rfl
      · simp only [Access.passwordKey, hk, ne_eq, not_false_eq_true, if_true]
        rfl

end User

namespace Source

/-- Read and check everything that the plan of a source depends on. -/
def prepare (s : Source) (mount : MountSettings) (seed : PasswordSeed) (key : ObjectKey) :
    Task (Plan s.target) :=
  match s with
  | .certificate => do
    let c ← Task.require (← Task.ask (.get .certificate key)) (.sourceMissing .certificate)
    Task.lift (c.plan mount.layout key.namespace)
  | .sqlInstance => do
    let i ← Task.require (← Task.ask (.get .sqlInstance key)) (.sourceMissing .sqlInstance)
    Task.lift (i.plan key.namespace)
  | .user => do
    let u ← Task.require (← Task.ask (.get .user key)) (.sourceMissing .user)
    let o ← Task.lift u.order
    let iKey := u.instanceKey key.namespace
    let i ← Task.require (← Task.ask (.get .sqlInstance iKey)) (.instanceMissing iKey)
    Task.lift (u.plan mount.paths seed key.namespace o i)

/-- A reconcile carries out the plan that it has prepared. -/
theorem task_eq (s : Source) (mount : MountSettings) (draw : Draw) (key : ObjectKey) :
    s.task mount draw key =
      s.prepare mount draw.seed key >>= fun p => p.carryOut draw.now := by
  cases s with
  | certificate =>
    simp only [task, prepare, bind_assoc]
    exact Certificate.reconcile_eq ..
  | sqlInstance =>
    simp only [task, prepare, bind_assoc]
    exact Instance.reconcile_eq ..
  | user =>
    simp only [task, prepare, bind_assoc]
    exact User.reconcile_eq ..

end Source

end SqlOperator
