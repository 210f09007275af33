import SqlOperator.Proofs.Credentials.PasswordStability
import SqlOperator.Proofs.Reconcile.Outcome
import SqlOperator.Proofs.Upsert.Effects

/-!
# Targets as projections of their sources

What a target says, the entries of a secret or the rules of a policy, is a function of the
source, the instance of a user, the settings and, in a user's secret, the password. Nothing of
it is left from a target that was there before, and everything else in such a target stays:
a reconcile replaces one part and frames the rest.

## Implementation notes

`Source.project?` is this function. It is partial, since it has no value where a reconcile
refuses the source.
-/

namespace SqlOperator

/-- What a target says: the entries of a secret, or the rules of a policy. -/
inductive Payload where
  | entries (data : Option SecretData) (stringData : Option TextMap)
  | rules (spec : Option PolicySpec)

/-- What a secret says. -/
def Secret.payload (s : Secret) : Payload := .entries s.data s.stringData

/-- What a policy says. -/
def NetworkPolicy.payload (p : NetworkPolicy) : Payload := .rules p.spec

/-- What a secret is beside its metadata and what it says. -/
def Secret.attributes (s : Secret) : Option String × Option Bool := (s.type, s.immutable)

theorem toOption_eq_some_iff {ε α : Type} {result : Except ε α} {a : α} :
    result.toOption = some a ↔ result = .ok a := by
  cases result <;> simp [Except.toOption]

namespace Certificate

variable {c : Certificate} {mount : MountSettings} {issued : Issued} {secret desired : Secret}
  {presence : Presence}

/-- What the secret of a certificate has to say. -/
def project? (c : Certificate) (mount : MountSettings) : Option Payload :=
  c.issued?.map fun issued =>
    .entries (some (secretData mount.layout issued
      (PrivateKey.toPkcs8 issued.privateKey).toOption)) none

theorem project?_of_shapeSecret (hissued : c.issued? = some issued)
    (hd : c.shapeSecret (secretData mount.layout issued
      (PrivateKey.toPkcs8 issued.privateKey).toOption) secret presence = .ok desired) :
    c.project? mount = some desired.payload ∧ desired.attributes = secret.attributes := by
  obtain ⟨claimed, -, rfl⟩ := shapeSecret_eq_ok.mp hd
  rw [project?, hissued]
  exact ⟨rfl, rfl⟩

end Certificate

namespace Instance

variable {i : Instance} {policy desired : NetworkPolicy} {presence : Presence}

/-- What the policy of an instance has to say. -/
def project? (i : Instance) : Option Payload :=
  some (.rules (some (policySpec i.app i.egressAddresses)))

theorem project?_of_shapePolicy
    (hd : i.shapePolicy i.egressAddresses policy presence = .ok desired) :
    i.project? = some desired.payload := by
  obtain ⟨claimed, -, rfl⟩ := shapePolicy_eq_ok.mp hd
  rfl

end Instance

namespace User

variable {u : User} {mount : MountSettings} {ns : String} {seed : PasswordSeed} {order : Order}
  {i : Instance} {host : String} {secret desired : Secret} {presence : Presence}
  {instance? : Option Instance} {password : String} {payload : Payload}

/-- What the secret of a user has to say, with a password. -/
def project? (u : User) (mount : MountSettings) (i : Option Instance) (password : String) :
    Option Payload := do
  let order ← u.order.toOption
  let host ← i.bind Instance.privateAddress?
  let access : Access := ⟨order.envPrefix, host, order.database, u.username, mount.paths⟩
  let environment ← (access.connection password).environment.toOption
  some (.entries (some (secretData environment)) none)

theorem project?_eq_some_iff :
    u.project? mount instance? password = some payload ↔
      ∃ order host environment, u.order = .ok order ∧
        instance?.bind Instance.privateAddress? = some host ∧
        (Access.connection ⟨order.envPrefix, host, order.database, u.username, mount.paths⟩
          password).environment = .ok environment ∧
        .entries (some (secretData environment)) none = payload := by
  simp only [project?, Option.bind_eq_bind, Option.bind_eq_some_iff, toOption_eq_some_iff,
    Option.some.injEq, ← exists_and_left]

/-- The password that the user's secret has handed out, or else a new one. -/
def settled (u : User) (seed : PasswordSeed) (secret : Secret) : String :=
  let envPrefix := (u.metadata.annotation? Annotation.envVarPrefix).getD ""
  (secret.password? (Connection.variableName envPrefix "PASSWORD")).getD seed.password

theorem settled_eq {envPrefix : String}
    (hann : u.metadata.annotation? Annotation.envVarPrefix = some envPrefix) :
    u.settled seed secret =
      (secret.password? (Connection.variableName envPrefix "PASSWORD")).getD seed.password := by
  rw [settled, hann, Option.getD_some]

theorem project?_of_shapeSecret (horder : u.order = .ok order)
    (hhost : i.privateAddress? = some host)
    (hd : u.shapeSecret ⟨order.envPrefix, host, order.database, u.username, mount.paths⟩ seed
      secret presence = .ok desired) :
    u.project? mount (some i) (u.settled seed secret) = some desired.payload ∧
      desired.attributes = secret.attributes := by
  obtain ⟨claimed, environment, -, henv, rfl⟩ := shapeSecret_eq_ok.mp hd
  have hsettled : u.settled seed secret = Access.settle
      ⟨order.envPrefix, host, order.database, u.username, mount.paths⟩ seed secret :=
    settled_eq (order_eq_ok horder).1
  rw [← hsettled] at henv
  exact ⟨project?_eq_some_iff.mpr ⟨order, host, environment, horder, hhost, henv, rfl⟩, rfl⟩

end User

namespace Source

/-- What a target of the source says. -/
def payload : (s : Source) → s.target.Object → Payload
  | .certificate | .user => Secret.payload
  | .sqlInstance => NetworkPolicy.payload

/-- What a target of the source is beside its metadata and what it says: the type of a secret,
and whether it is immutable. -/
def attributes : (s : Source) → s.target.Object → Option String × Option Bool
  | .certificate | .user => Secret.attributes
  | .sqlInstance => fun _ => (none, none)

/-- The instance that a source names. -/
def instance? (c : Cluster) (ns : String) : (s : Source) → s.kind.Object → Option Instance
  | .certificate | .sqlInstance => fun _ => none
  | .user => fun u => c.stored? .sqlInstance (User.instanceKey u ns)

/-- What a target has to say for a source. -/
def project? (mount : MountSettings) (i : Option Instance) (password : String) :
    (s : Source) → s.kind.Object → Option Payload
  | .certificate => fun c => Certificate.project? c mount
  | .sqlInstance => Instance.project?
  | .user => fun u => User.project? u mount i password

/-- The password that belongs into the target of a source; only users have one. -/
def settled (seed : PasswordSeed) : (s : Source) → s.kind.Object → s.target.Object → String
  | .certificate | .sqlInstance => fun _ _ => ""
  | .user => fun u secret => User.settled u seed secret

variable {s : Source} {mount : MountSettings} {draw : Draw} {key : ObjectKey}

theorem payload_withMetadata (s : Source) (o : s.target.Object) (m : Metadata) :
    s.payload (s.target.withMetadata o m) = s.payload o := by
  cases s <;> rfl

theorem attributes_withMetadata (s : Source) (o : s.target.Object) (m : Metadata) :
    s.attributes (s.target.withMetadata o m) = s.attributes o := by
  cases s <;> rfl

/-- What a shaped target says is the projection, and what it is beside that is as it was. -/
theorem Prepared.projects {read : List Exchange} {p : Plan s.target} {c d : Cluster}
    {clock : Timestamp} (hp : s.Prepared mount key draw.seed read p)
    (hr : c.Replays clock read d) {x : s.kind.Object} (hx : c.stored? s.kind key = some x)
    {o desired : s.target.Object} {presence : Presence} (hd : p.mutate o presence = .ok desired) :
    s.project? mount (s.instance? c key.namespace x) (s.settled draw.seed x o) x =
        some (s.payload desired) ∧ s.attributes desired = s.attributes o := by
  cases s with
  | certificate =>
    obtain ⟨cert, rfl, hplan⟩ := hp
    obtain rfl := Option.some.inj ((Cluster.answer_get_ok hr.1).1.symm.trans hx)
    obtain ⟨name, issued, -, hissued, rfl⟩ := Certificate.plan_eq_ok.mp hplan
    rw [Certificate.mutate_planFor] at hd
    exact Certificate.project?_of_shapeSecret hissued hd
  | sqlInstance =>
    obtain ⟨i, rfl, hplan⟩ := hp
    obtain rfl := Option.some.inj ((Cluster.answer_get_ok hr.1).1.symm.trans hx)
    obtain ⟨resourceId, -, -, rfl⟩ := Instance.plan_eq_ok.mp hplan
    exact ⟨Instance.project?_of_shapePolicy hd, rfl⟩
  | user =>
    obtain ⟨u, order, i, rfl, horder, hplan⟩ := hp
    obtain rfl := Option.some.inj ((Cluster.answer_get_ok hr.1).1.symm.trans hx)
    obtain ⟨-, host, hhost, -, rfl⟩ := User.plan_eq_ok.mp hplan
    have hinstance : c.stored? .sqlInstance (User.instanceKey u key.namespace) = some i := by
      have hread := (Cluster.answer_get_ok hr.2.1).1
      have hne : Kind.sqlInstance ≠ (Call.get .user key).kind := by simp [Call.kind]
      rwa [Cluster.stored?, Cluster.store_answer_of_ne _ _ _ hne] at hread
    have hprojects : u.project? mount (some i) (u.settled draw.seed o) =
        some (Secret.payload desired) ∧ Secret.attributes desired = Secret.attributes o :=
      User.project?_of_shapeSecret horder hhost hd
    rw [← hinstance] at hprojects
    exact hprojects

/-- What an operation has made of a target that was there. -/
structure Reworks (s : Source) (draw : Draw) (raceArmed : Bool) (op : Operation)
    (t stored : s.target.Object) : Prop where
  retains : (s.target.metadata stored).Retains (s.target.metadata t)
  attributes : s.attributes stored = s.attributes t
  /-- The version and the note of the last change are as they were, unless the target was
  updated or there was a race for it. -/
  updated_or_unchanged :
    op = .updated ∧ (s.target.metadata stored).annotation? Annotation.lastUpdated =
        some draw.now.render ∨
      op = .unchanged ∧
        (stored = t ∨ raceArmed = true ∧ ∃ version, stored = s.target.stamp t version draw.now)

/-- A reconcile that succeeded leaves a target that says what the source has to say, and that
is for the rest what it was before. -/
theorem Ends.projects {h : List Exchange} {op : Operation} {c d : Cluster}
    (he : s.Ends mount draw key h (.ok op)) (hc : c.Consistent) (hid : c.Identified)
    (hr : c.Replays draw.now h d) :
    ∃ x target stored, c.stored? s.kind key = some x ∧
      s.targetKey? key.namespace x = some target ∧ d.stored? s.target target = some stored ∧
      s.project? mount (s.instance? c key.namespace x) (s.settled draw.seed x
          ((c.stored? s.target target).getD (s.target.blank target))) x =
        some (s.payload stored) ∧
      (s.target.metadata stored).Follows (s.kind.metadata x) ∧
      ((∃ e ∈ h, e.call.isWrite = true) ↔ op ≠ .unchanged) ∧
      ∀ t, c.stored? s.target target = some t →
        s.Reworks draw (c.store s.target).raceArmed op t stored := by
  obtain ⟨⟨x, p, stored, hleaves⟩, hwrites⟩ := he.exists_leaves hc hr
  have hclaims := hleaves.shaping.claimsFor
  obtain ⟨read, m, hp, hread⟩ := hleaves.planned
  obtain ⟨presence, desired, metadata, hshape, hdesired⟩ := hleaves.leaves.exists_shaped
  obtain ⟨hproject, hattributes⟩ := hp.projects hread hleaves.found hshape
  refine ⟨x, p.target, stored, hleaves.found, hleaves.target, hleaves.left, ?_,
    hleaves.leaves.follows hclaims, hwrites,
    fun t ht => ⟨hleaves.leaves.retains hclaims (hid s.target) ht, ?_,
      hleaves.leaves.updated_or_unchanged ht⟩⟩
  · rw [hdesired, payload_withMetadata]
    exact hproject
  · rw [hdesired, attributes_withMetadata, hattributes, ← Cluster.stored?, ht, Option.getD_some]

end Source

namespace Session

/-- Whenever a reconcile has succeeded, from every state that others and reconciles can lead to,
its target says what the source, the instance, the settings and the password call for, and
follows the source in type, application, team and correlation identifier. A target that was
there before keeps all else, and if nothing was written also its version and the note of its
last change. -/
theorem target_projects_source (moves : List (Move Job)) (requeues : Requeues)
    (source : Source) (mount : MountSettings) (draw : Draw) (key : ObjectKey) (op : Operation) :
    let before : Session := ⟨(System.reconciling moves).cluster, requeues⟩
    let r := before.reconcile mount draw source key
    r.log.getLast? = some (.reconciled op source.target.name) →
      ∃ x target stored, before.cluster.stored? source.kind key = some x ∧
        source.targetKey? key.namespace x = some target ∧
        r.state.cluster.stored? source.target target = some stored ∧
        source.project? mount (source.instance? before.cluster key.namespace x)
            (source.settled draw.seed x ((before.cluster.stored? source.target target).getD
              (source.target.blank target))) x = some (source.payload stored) ∧
        (source.target.metadata stored).Follows (source.kind.metadata x) ∧
        ((∃ e ∈ r.exchanges, e.call.isWrite = true) ↔ op ≠ .unchanged) ∧
        ∀ t, before.cluster.stored? source.target target = some t →
          source.Reworks draw (before.cluster.store source.target).raceArmed op t stored := by
  intro before r h
  obtain ⟨result, hcomes, hends, hreplays⟩ :=
    exists_comesTo (Source.task_always source mount draw key) before
  obtain rfl := hcomes.eq_ok h
  exact hends.projects (System.sound_reconciling moves).consistent
    (System.identified_after Job.program moves) hreplays

end Session

namespace Sample

/-- A secret of the user with given entries and much that others have set. -/
def drifted (entries : List (String × String)) : Secret where
  metadata := {
    name := some "app-secret"
    «namespace» := some "ns"
    labels := some (.ofList
      [(Label.managedBy, operatorId), (Label.app, "gone"), ("tier", "backend")])
    finalizers := some ["keep"]
    ownerReferences := some [Kind.ownerReference .user (account "OLD")] }
  data := some (.ofList (entries.map fun (name, text) => (name, .ofText text)))
  type := some "Opaque"
  immutable := some false

/-- The secret of the user is there with the entries, and the user has got another prefix. -/
def drifting (entries : List (String × String)) : List (Move Job) :=
  [.intervene (.insert .sqlInstance privateDatabase time),
    .intervene (.insert .user (account "NEW") time),
    .intervene (.insert .secret (drifted entries) time)]

end Sample

namespace Session

open Sample

/-- An entry under a former prefix and the label of a former application vanish, and what others
have set stays. -/
theorem drifted_target_projects_source :
    let before : Session :=
      ⟨(System.reconciling (drifting [("OLD_USER", "gone"), ("PGPASSWORD", "live")])).cluster, {}⟩
    ∃ (u : User) (stored : Secret), before.cluster.stored? .user handOut.key = some u ∧
      (before.reconcile {} handOut.draw .user handOut.key).state.cluster.stored? .secret secretKey =
        some stored ∧
      u.project? {} (Source.user.instance? before.cluster "ns" u) "live" = some stored.payload ∧
      stored.metadata.label? Label.app = u.metadata.label? Label.app ∧
      stored.metadata.label? "tier" = some "backend" ∧
      stored.metadata.finalizers = some ["keep"] ∧
      stored.attributes = (some "Opaque", some false) := by
  intro before
  have hupdated : (before.reconcile {} handOut.draw .user handOut.key).log.getLast? =
      some (.reconciled .updated "Secret") := by
    decide +kernel
  have hsource : (before.cluster.stored? .user handOut.key).map (fun u =>
      (Source.user.targetKey? "ns" u, Source.user.settled handOut.draw.seed u
        ((before.cluster.stored? .secret secretKey).getD (Kind.blank .secret secretKey)))) =
      some (some secretKey, "live") := by
    decide +kernel
  have htarget : (before.cluster.stored? .secret secretKey).map (fun t : Secret =>
      (t.metadata.label? "tier", t.metadata.finalizers, t.attributes)) =
      some (some "backend", some ["keep"], some "Opaque", some false) := by
    decide +kernel
  obtain ⟨u, target, stored, hu, hkey, hstored, hproject, hfollows, -, hreworks⟩ :=
    target_projects_source (drifting [("OLD_USER", "gone"), ("PGPASSWORD", "live")]) {} .user {}
      handOut.draw handOut.key .updated hupdated
  obtain ⟨v, hv, hsettled⟩ := Option.map_eq_some_iff.mp hsource
  obtain rfl := Option.some.inj (hu.symm.trans hv)
  obtain ⟨hkey', hlive⟩ := Prod.mk.inj hsettled
  obtain rfl := Option.some.inj (hkey.symm.trans hkey')
  obtain ⟨t, ht, hhad⟩ := Option.map_eq_some_iff.mp htarget
  simp only [Prod.mk.injEq] at hhad
  obtain ⟨htier, hfinalizers, hattributes⟩ := hhad
  have hframe := hreworks t ht
  refine ⟨u, stored, hu, hstored, ?_, hfollows.app, ?_, ?_, ?_⟩
  · exact hlive ▸ hproject
  · exact (hframe.retains.labels "tier" (by decide)).trans htier
  · exact (congrArg Metadata.finalizers hframe.retains.rest).trans hfinalizers
  · exact hframe.attributes.trans hattributes

end Session

end SqlOperator
