import SqlOperator.Proofs.Reconcile.Plan

/-!
# The course of a reconcile

A reconcile gets its source, a user's reconcile also the instance of the user, and
then the target; at most one further call writes the target. `Source.Calls` and
`Source.Ends` say so whatever the stores answer, and tie every write to the plan
that follows from what was read.
-/

namespace SqlOperator

namespace Task

variable {α β : Type} {calls : List Exchange → Call → Prop} {before : List Exchange}

/-- A value that has to be there ends the sequence if it is not. -/
theorem always_require_bind {ends : List Exchange → Except Failure β → Prop}
    (value : Option α) (obstacle : Obstacle) (f : α → Task β) :
    (require value obstacle >>= f).run.Always calls ends before ↔
      (∀ a, value = some a → (f a).run.Always calls ends before) ∧
        (value = none → ends before (.error (.ofObstacle obstacle))) := by
  rw [always_bind]
  cases value with
  | none => exact ⟨fun h => ⟨nofun, fun _ => h⟩, fun h => h.2 rfl⟩
  | some a => exact ⟨fun h => ⟨fun _ ha => Option.some.inj ha ▸ h, nofun⟩, fun h => h.1 a rfl⟩

/-- What is only logged exchanges nothing. -/
theorem always_announce_bind {ends : List Exchange → Except Failure β → Prop}
    (events : List Event) (t : Task β) :
    (announce events >>= fun _ => t).run.Always calls ends before ↔
      t.run.Always calls ends before := by
  induction events with
  | nil => exact Iff.rfl
  | cons event rest ih => exact ih

end Task

namespace Source

variable (s : Source) (mount : MountSettings) (draw : Draw) (key : ObjectKey)

/-- The plan that follows from what a reconcile has read. -/
def Prepared (seed : PasswordSeed) (read : List Exchange) : Plan s.target → Prop :=
  match s with
  | .certificate => fun p =>
    ∃ c, read = [⟨.get .certificate key, .ok (some c)⟩] ∧
      Certificate.plan c mount.layout key.namespace = .ok p
  | .sqlInstance => fun p =>
    ∃ i, read = [⟨.get .sqlInstance key, .ok (some i)⟩] ∧
      Instance.plan i key.namespace = .ok p
  | .user => fun p =>
    ∃ u o i, read = [⟨.get .user key, .ok (some u)⟩,
        ⟨.get .sqlInstance (User.instanceKey u key.namespace), .ok (some i)⟩] ∧
      User.order u = .ok o ∧ User.plan u mount.paths seed key.namespace o i = .ok p

/-- The mutations that bring the target of a source in line with `x`. -/
inductive Shaping : (s : Source) → s.kind.Object → Mutation s.target → Prop where
  | certificate (c : Certificate) (data : SecretData) :
      Shaping .certificate c (c.shapeSecret data)
  | sqlInstance (i : Instance) (addresses : List String) :
      Shaping .sqlInstance i (i.shapePolicy addresses)
  | user (u : User) (access : User.Access) (seed : PasswordSeed) :
      Shaping .user u (u.shapeSecret access seed)

/-- The key of the target of a source. -/
def targetKey? (ns : String) : (s : Source) → s.kind.Object → Option ObjectKey
  | .certificate => fun c =>
    ((Certificate.metadata c).annotation? Annotation.secretName).map fun name => ⟨ns, name⟩
  | .sqlInstance => fun i =>
    (Instance.spec i).resourceId.map fun resourceId => ⟨ns, Instance.policyName i resourceId⟩
  | .user => fun u => (User.passwordSecretRef? u).map fun ref => ⟨ns, ref.name⟩

/-- What is read of a source `x` before its target: the source itself, and the instance of
a user. -/
inductive Inputs : (s : Source) → s.kind.Object → List Exchange → Prop where
  | certificate (c : Certificate) : Inputs .certificate c [⟨.get .certificate key, .ok (some c)⟩]
  | sqlInstance (i : Instance) : Inputs .sqlInstance i [⟨.get .sqlInstance key, .ok (some i)⟩]
  | user (u : User) (i : Instance) : Inputs .user u
      [⟨.get .user key, .ok (some u)⟩,
        ⟨.get .sqlInstance (u.instanceKey key.namespace), .ok (some i)⟩]

/-- What is read if there is no plan: the source, and possibly the instance of a user. -/
inductive Unprepared : List Exchange → Prop where
  | source (answer : Except StoreError (Option s.kind.Object)) :
      Unprepared [⟨.get s.kind key, answer⟩]
  | userInstance {u : User} (answer : Except StoreError (Option Instance)) : s = .user →
      Unprepared [⟨.get .user key, .ok (some u)⟩,
        ⟨.get .sqlInstance (u.instanceKey key.namespace), answer⟩]

/-- The calls by which a plan is prepared. -/
inductive Reads : List Exchange → Call → Prop where
  | source : Reads [] (.get s.kind key)
  | userInstance {u : User} {o : User.Order} : s = .user → u.order = .ok o →
      Reads [⟨.get .user key, .ok (some u)⟩] (.get .sqlInstance (u.instanceKey key.namespace))

/-- The calls of a reconcile, each after the exchanges before it. -/
inductive Calls : List Exchange → Call → Prop where
  | prepare {h : List Exchange} {c : Call} : Reads s key h c → Calls h c
  | upsert {read h : List Exchange} {c : Call} {p : Plan s.target} :
      s.Prepared mount key draw.seed read p →
      Upsert.Calls draw.now p.target p.mutate h c → Calls (read ++ h) c

/-- What the work on a target ends in, given all exchanges. -/
inductive Ends : List Exchange → Except Failure Operation → Prop where
  | unprepared {h : List Exchange} (failure : Failure) :
      (∀ e ∈ h, e.call.isWrite = false) → Ends h (.error failure)
  | upserted {read h : List Exchange} {r : Except Failure Operation} {p : Plan s.target} :
      s.Prepared mount key draw.seed read p →
      Upsert.Ends draw.now p.target p.mutate h r → Ends (read ++ h) r

variable {s mount draw key}

theorem Unprepared.isWrite_eq_false {h : List Exchange} (hu : s.Unprepared key h) :
    ∀ e ∈ h, e.call.isWrite = false := by
  cases hu with
  | source answer => simp [Call.isWrite]
  | userInstance answer _ => simp [Call.isWrite]

theorem Inputs.mem {x : s.kind.Object} {read : List Exchange} (hi : Inputs key s x read) :
    ⟨.get s.kind key, .ok (some x)⟩ ∈ read := by
  cases hi <;> exact List.mem_cons_self

/-- Before the target is looked up, a reconcile only reads, and its plan follows from what it has
read. -/
theorem prepare_always (s : Source) (mount : MountSettings) (seed : PasswordSeed)
    (key : ObjectKey) :
    (s.prepare mount seed key).run.Always (s.Reads key)
      (fun h r => match r with
        | .ok p => s.Prepared mount key seed h p
        | .error _ => s.Unprepared key h) [] := by
  cases s with
  | certificate =>
    refine (Task.always_ask_bind _).mpr ⟨.source, fun found => ?_, fun e => .source _⟩
    refine (Task.always_require_bind _ _ _).mpr ⟨fun c hc => ?_, fun _ => .source _⟩
    subst hc
    refine (Task.always_lift _).mpr ?_
    cases hp : Certificate.plan c mount.layout key.namespace with
    | error failure => exact .source _
    | ok p => exact ⟨c, rfl, hp⟩
  | sqlInstance =>
    refine (Task.always_ask_bind _).mpr ⟨.source, fun found => ?_, fun e => .source _⟩
    refine (Task.always_require_bind _ _ _).mpr ⟨fun i hi => ?_, fun _ => .source _⟩
    subst hi
    refine (Task.always_lift _).mpr ?_
    cases hp : Instance.plan i key.namespace with
    | error failure => exact .source _
    | ok p => exact ⟨i, rfl, hp⟩
  | user =>
    refine (Task.always_ask_bind _).mpr ⟨.source, fun found => ?_, fun e => .source _⟩
    refine (Task.always_require_bind _ _ _).mpr ⟨fun u hu => ?_, fun _ => .source _⟩
    subst hu
    refine (Task.always_lift_bind _ _).mpr ⟨fun o ho => ?_, fun _ _ => .source _⟩
    refine (Task.always_ask_bind _).mpr
      ⟨.userInstance rfl ho, fun found => ?_, fun e => .userInstance _ rfl⟩
    refine (Task.always_require_bind _ _ _).mpr ⟨fun i hi => ?_, fun _ => .userInstance _ rfl⟩
    subst hi
    refine (Task.always_lift _).mpr ?_
    cases hp : User.plan u mount.paths seed key.namespace o i with
    | error failure => exact .userInstance _ rfl
    | ok p => exact ⟨u, o, i, rfl, ho, hp⟩

/-- A plan is for the target of its source, and shapes it for the source. -/
theorem Prepared.inputs {seed : PasswordSeed} {read : List Exchange} {p : Plan s.target}
    (h : s.Prepared mount key seed read p) :
    ∃ x, Inputs key s x read ∧ s.targetKey? key.namespace x = some p.target ∧
      s.Shaping x p.mutate := by
  cases s with
  | certificate =>
    obtain ⟨c, rfl, hp⟩ := h
    obtain ⟨name, issued, hname, -, rfl⟩ := Certificate.plan_eq_ok.mp hp
    refine ⟨c, .certificate c, ?_, ?_⟩
    · exact Option.map_eq_some_iff.mpr ⟨name, hname, (c.target_planFor ..).symm⟩
    · rw [c.mutate_planFor]
      exact .certificate c _
  | sqlInstance =>
    obtain ⟨i, rfl, hp⟩ := h
    obtain ⟨resourceId, hid, -, rfl⟩ := Instance.plan_eq_ok.mp hp
    exact ⟨i, .sqlInstance i, Option.map_eq_some_iff.mpr ⟨resourceId, hid, rfl⟩,
      .sqlInstance i _⟩
  | user =>
    obtain ⟨u, o, i, rfl, ho, hp⟩ := h
    obtain ⟨-, host, -, -, rfl⟩ := User.plan_eq_ok.mp hp
    exact ⟨u, .user u i, Option.map_eq_some_iff.mpr ⟨o.ref, (User.order_eq_ok ho).2.2, rfl⟩,
      .user u _ seed⟩

theorem namespace_of_targetKey? {ns : String} {x : s.kind.Object} {target : ObjectKey}
    (h : s.targetKey? ns x = some target) : target.namespace = ns := by
  cases s <;> obtain ⟨name, -, rfl⟩ := Option.map_eq_some_iff.mp h <;> rfl

/-- A plan has its target in the namespace of its source, and shapes it for the source. -/
theorem Prepared.shaping {seed : PasswordSeed} {read : List Exchange} {p : Plan s.target}
    (h : s.Prepared mount key seed read p) :
    ∃ x, ⟨.get s.kind key, .ok (some x)⟩ ∈ read ∧ p.target.namespace = key.namespace ∧
      s.Shaping x p.mutate := by
  obtain ⟨x, hinputs, htarget, hshaping⟩ := h.inputs
  exact ⟨x, hinputs.mem, namespace_of_targetKey? htarget, hshaping⟩

/-- What the work on a target ends in is what preparing ends in, or what the upsert of a
prepared plan ends in. -/
theorem task_always_of {ends : List Exchange → Except Failure Operation → Prop}
    (hunprepared : ∀ h failure, s.Unprepared key h → ends h (.error failure))
    (hupserted : ∀ read h r (p : Plan s.target), s.Prepared mount key draw.seed read p →
      Upsert.Ends draw.now p.target p.mutate h r → ends (read ++ h) r) :
    (s.task mount draw key).run.Always (s.Calls mount draw key) ends [] := by
  rw [task_eq, Task.always_bind]
  refine (prepare_always s mount draw.seed key).mono (fun _ _ => .prepare) fun h r hr => ?_
  cases r with
  | error failure => exact hunprepared h failure hr
  | ok p =>
    refine (Task.always_announce_bind _ _).mpr ?_
    have hu := (upsert_always draw.now s.target p.target p.mutate).later h
    rw [List.append_nil] at hu
    refine hu.mono ?_ ?_
    · rintro b c ⟨own, rfl, hc⟩
      exact .upsert hr hc
    · rintro b r ⟨own, rfl, he⟩
      exact hupserted h own r p hr he

/-- Whatever is answered, the calls of a reconcile and its result follow from the exchanges. -/
theorem task_always (s : Source) (mount : MountSettings) (draw : Draw) (key : ObjectKey) :
    (s.task mount draw key).run.Always (s.Calls mount draw key) (s.Ends mount draw key) [] :=
  task_always_of (fun _ failure hu => .unprepared failure hu.isWrite_eq_false)
    fun _ _ _ _ hp he => .upserted hp he

/-- Every reconcile takes one of these courses and answers accordingly. -/
theorem reconcile_always (s : Source) (mount : MountSettings) (draw : Draw)
    (key : ObjectKey) :
    (s.reconcile mount draw key).Always (s.Calls mount draw key)
      (fun h a => ∃ r, a = Action.ofResult r ∧ s.Ends mount draw key h r) [] := by
  refine (Program.always_bind _ _).mpr ?_
  exact (task_always s mount draw key).mono (fun _ _ h => h) fun _ r h => ⟨r, rfl, h⟩

end Source

/-- A reconcile to be started. -/
structure Job where
  source : Source
  mount : MountSettings
  draw : Draw
  /-- The key of the source. -/
  key : ObjectKey

namespace Job

/-- The reconcile that the job asks for. -/
def program (j : Job) : Program (Except Failure Action) :=
  j.source.reconcile j.mount j.draw j.key

/-- The calls that may come next after these exchanges. -/
def Calls (j : Job) : List Exchange → Call → Prop := j.source.Calls j.mount j.draw j.key

/-- The actions that the job may end in after these exchanges. -/
def Ends (j : Job) (h : List Exchange) (a : Except Failure Action) : Prop :=
  ∃ r, a = Action.ofResult r ∧ j.source.Ends j.mount j.draw j.key h r

theorem program_always (j : Job) : j.program.Always j.Calls j.Ends [] :=
  Source.reconcile_always ..

end Job

end SqlOperator
