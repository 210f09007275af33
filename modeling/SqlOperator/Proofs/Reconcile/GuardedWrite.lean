import SqlOperator.Proofs.Ownership.Belonging
import SqlOperator.Proofs.Reconcile.Outcome

/-!
# One guarded write at the end

Whatever the stores answer, a reconcile reads its source, a user's instance, and its
target, in this order, and then makes at most one call more. This call writes the
target: it creates what was not there, or replaces what was read by something else of
the same identity and version. So a reconcile that is cut off anywhere has done all of
its work or none, and one that does not tell of a write has not tried any.
-/

namespace SqlOperator

/-- Both are about one object in one version. -/
structure Metadata.SameIdentity (m n : Metadata) : Prop where
  name : m.name = n.name
  «namespace» : m.namespace = n.namespace
  uid : m.uid = n.uid
  resourceVersion : m.resourceVersion = n.resourceVersion

/-- A reshaped object keeps its identity and version, also with the note of the update. -/
theorem Mutation.ClaimsFor.sameIdentity {kind : Kind} {mutate : Mutation kind}
    {owner : OwnerReference} {source : Metadata} (hm : mutate.ClaimsFor owner source)
    {current desired : kind.Object} (hd : mutate current .existing = .ok desired)
    (now : Timestamp) :
    (kind.metadata (kind.touch desired now)).SameIdentity (kind.metadata current) := by
  rw [Kind.metadata_touch, (hm.shaped_existing hd).2]
  exact ⟨rfl, rfl, rfl, rfl⟩

namespace Source

/-- The exchanges of a reconcile, and what the work on its target comes to. -/
inductive Course (s : Source) (mount : MountSettings) (draw : Draw) (key : ObjectKey) :
    List Exchange → Except Failure Operation → Prop where
  /-- The source, or the instance of a user, was read and turned out unfit. -/
  | unprepared {h : List Exchange} (failure : Failure) : s.Unprepared key h →
      Course s mount draw key h (.error failure)
  /-- The target was read, or could not be, and is left as it is. -/
  | unwritten {x : s.kind.Object} {read : List Exchange} {target : ObjectKey}
      {result : Except Failure Operation} (answer : Except StoreError (Option s.target.Object)) :
      Inputs key s x read → s.targetKey? key.namespace x = some target →
      (result = .ok .unchanged ∨ ∃ failure, result = .error failure) →
      Course s mount draw key (read ++ [⟨.get s.target target, answer⟩]) result
  /-- The target was not there and is created. -/
  | created {x : s.kind.Object} {read : List Exchange} {p : Plan s.target}
      {desired : s.target.Object} (answer : Except StoreError s.target.Object) :
      Inputs key s x read → s.targetKey? key.namespace x = some p.target →
      s.Prepared mount key draw.seed read p →
      p.mutate (s.target.blank p.target) .new = .ok desired →
      s.target.key (s.target.touch desired draw.now) = p.target →
      Course s mount draw key
        (read ++ [⟨.get s.target p.target, .ok none⟩,
          ⟨.create s.target (s.target.touch desired draw.now), answer⟩])
        ((answer.map fun _ => .created).mapError .ofStore)
  /-- The target was there, is to be another one, and is replaced in the version that was
  read. -/
  | replaced {x : s.kind.Object} {read : List Exchange} {p : Plan s.target}
      {current desired : s.target.Object} (answer : Except StoreError s.target.Object) :
      Inputs key s x read → s.targetKey? key.namespace x = some p.target →
      s.Prepared mount key draw.seed read p →
      p.mutate current .existing = .ok desired → desired ≠ current →
      (s.target.metadata (s.target.touch desired draw.now)).SameIdentity
        (s.target.metadata current) →
      Course s mount draw key
        (read ++ [⟨.get s.target p.target, .ok (some current)⟩,
          ⟨.replace s.target (s.target.touch desired draw.now), answer⟩])
        ((answer.map fun _ => .updated).mapError .ofStore)

variable {s : Source} {mount : MountSettings} {draw : Draw} {key : ObjectKey}
  {h : List Exchange} {result : Except Failure Operation}

theorem Inputs.isWrite_eq_false {x : s.kind.Object} {read : List Exchange}
    (hi : Inputs key s x read) : ∀ e ∈ read, e.call.isWrite = false := by
  cases hi <;> simp [Call.isWrite]

/-- What is exchanged up to the read of the target. -/
theorem Inputs.isWrite_eq_false_of_get {x : s.kind.Object} {read : List Exchange}
    (hi : Inputs key s x read) (target : ObjectKey)
    (answer : Except StoreError (Option s.target.Object)) :
    ∀ e ∈ read ++ [⟨.get s.target target, answer⟩], e.call.isWrite = false :=
  List.forall_mem_append.mpr ⟨hi.isWrite_eq_false, List.forall_mem_singleton.mpr rfl⟩

/-- A prepared reconcile takes the course that its upsert takes. -/
theorem course_of_upserted {read : List Exchange} {p : Plan s.target}
    (hp : s.Prepared mount key draw.seed read p)
    (he : Upsert.Ends draw.now p.target p.mutate h result) :
    s.Course mount draw key (read ++ h) result := by
  obtain ⟨x, hinputs, htarget, hshaping⟩ := hp.inputs
  have hclaims := hshaping.claimsFor
  cases he with
  | unread e => exact .unwritten _ hinputs htarget (.inr ⟨_, rfl⟩)
  | notShaped _ => exact .unwritten _ hinputs htarget (.inr ⟨_, rfl⟩)
  | notReshaped _ => exact .unwritten _ hinputs htarget (.inr ⟨_, rfl⟩)
  | unchanged _ => exact .unwritten _ hinputs htarget (.inl rfl)
  | @notCreated desired e hd =>
    refine .created (.error e) hinputs htarget hp hd ?_
    rw [Kind.key_touch, (hclaims.shaped_new hd).1]
  | @created desired stored hd =>
    refine .created (.ok stored) hinputs htarget hp hd ?_
    rw [Kind.key_touch, (hclaims.shaped_new hd).1]
  | notUpdated e hd hne =>
    exact .replaced (.error e) hinputs htarget hp hd hne (hclaims.sameIdentity hd _)
  | updated stored hd hne =>
    exact .replaced (.ok stored) hinputs htarget hp hd hne (hclaims.sameIdentity hd _)

theorem task_always_course (s : Source) (mount : MountSettings) (draw : Draw)
    (key : ObjectKey) :
    (s.task mount draw key).run.Always (s.Calls mount draw key) (s.Course mount draw key) [] :=
  task_always_of (fun _ failure => .unprepared failure) fun _ _ _ _ => course_of_upserted

/-- A course without a write, or with one, whose answer the result tells of. -/
theorem Course.reads_or_tells (hc : s.Course mount draw key h result) :
    (∀ e ∈ h, e.call.isWrite = false) ∨
      ∃ reads w, h = reads ++ [w] ∧ (∀ e ∈ reads, e.call.isWrite = false) ∧
        w.call.isWrite = true ∧ w.call.kind = s.target ∧
        ((w.answer.isOk = true ∧ (result = .ok .created ∨ result = .ok .updated)) ∨
          ∃ e, w.answer = .error e ∧ result = .error (.ofStore e)) := by
  cases hc with
  | unprepared failure hu => exact .inl hu.isWrite_eq_false
  | unwritten answer hi => exact .inl (hi.isWrite_eq_false_of_get _ answer)
  | @created x read p desired answer hi =>
    refine .inr ⟨read ++ [⟨.get s.target p.target, .ok none⟩],
      ⟨.create s.target (s.target.touch desired draw.now), answer⟩, by simp,
      hi.isWrite_eq_false_of_get _ _, rfl, rfl, ?_⟩
    cases answer with
    | ok stored => exact .inl ⟨rfl, .inl rfl⟩
    | error e => exact .inr ⟨e, rfl, rfl⟩
  | @replaced x read p current desired answer hi =>
    refine .inr ⟨read ++ [⟨.get s.target p.target, .ok (some current)⟩],
      ⟨.replace s.target (s.target.touch desired draw.now), answer⟩, by simp,
      hi.isWrite_eq_false_of_get _ _, rfl, rfl, ?_⟩
    cases answer with
    | ok stored => exact .inl ⟨rfl, .inr rfl⟩
    | error e => exact .inr ⟨e, rfl, rfl⟩

/-- Whatever handles its calls, a reconcile takes one of the courses: it reads in a fixed
order, and makes at most one write, of its target, guarded by what was read, and as its
last call. If it comes to anything but a created or updated target, or the failure of
this write, then it has issued no write. -/
theorem reconcile_writes_once {σ : Type} (handler : Handler σ) (state : σ) (s : Source)
    (mount : MountSettings) (draw : Draw) (key : ObjectKey) :
    let r := (s.reconcile mount draw key).run handler state
    ∃ result, s.ComesTo r result ∧ s.Course mount draw key r.exchanges result ∧
      ((∀ e ∈ r.exchanges, e.call.isWrite = false) ∨
        ∃ reads w, r.exchanges = reads ++ [w] ∧ (∀ e ∈ reads, e.call.isWrite = false) ∧
          w.call.isWrite = true ∧ w.call.kind = s.target ∧
          ((w.answer.isOk = true ∧ (result = .ok .created ∨ result = .ok .updated)) ∨
            ∃ e, w.answer = .error e ∧ result = .error (.ofStore e))) := by
  intro r
  obtain ⟨result, hcomes, hcourse⟩ :=
    exists_comesTo (task_always_course s mount draw key) handler state
  exact ⟨result, hcomes, hcourse, hcourse.reads_or_tells⟩

end Source

end SqlOperator
