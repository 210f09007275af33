import SqlOperator.Proofs.Credentials.PasswordStability
import SqlOperator.Proofs.Program.Honest
import SqlOperator.Proofs.Reconcile.GuardedWrite
import SqlOperator.Proofs.Store.Unwritten

/-!
# Failed calls are tried again

Whichever call of a reconcile fails, and in whatever way, the reconcile ends there, has
changed no object, and is put off for a minute. What a reconcile surfaces as an error is
never the failure of a store.

Over any sequence of requests, each counter tells how many requests of its own source
were put off.
-/

namespace SqlOperator

/-- A mutation that first claims its target, and has failures of its own only. -/
theorem own_of_mapError_bind {ε α β : Type} {result : Except ε α} {g : ε → Failure}
    {f : α → Except Failure β} (hg : ∀ e, (g e).Own)
    (hf : ∀ a failure, f a = .error failure → failure.Own) (failure : Failure)
    (h : result.mapError g >>= f = .error failure) : failure.Own := by
  cases result with
  | error e => exact Except.error.inj h ▸ hg e
  | ok a => exact hf a failure h

/-- The mutation fails with failures of its own only. -/
def Mutation.Own {kind : Kind} (mutate : Mutation kind) : Prop :=
  ∀ o presence failure, mutate o presence = .error failure → failure.Own

theorem Certificate.own_shapeSecret (c : Certificate) (data : SecretData) :
    (c.shapeSecret data).Own :=
  fun _ _ => own_of_mapError_bind (fun _ => nofun) fun _ _ => nofun

theorem Instance.own_shapePolicy (i : Instance) (addresses : List String) :
    (i.shapePolicy addresses).Own :=
  fun _ _ => own_of_mapError_bind (fun _ => nofun) fun _ _ => nofun

theorem User.own_shapeSecret (u : User) (access : Access) (seed : PasswordSeed) :
    (u.shapeSecret access seed).Own :=
  fun _ _ => own_of_mapError_bind (fun _ => nofun) fun _ =>
    own_of_mapError_bind (fun _ => nofun) fun _ _ => nofun

theorem honest_upsert {kind : Kind} {mutate : Mutation kind} (hm : mutate.Own) (now : Timestamp)
    (key : ObjectKey) : (upsert now kind key mutate).Honest := by
  refine (Task.honest_ask _).bind fun found => ?_
  cases found with
  | none =>
    refine (Task.honest_lift (hm _ _)).bind fun desired => ?_
    exact (Task.honest_ask _).bind fun _ => Task.honest_pure _
  | some current =>
    refine (Task.honest_lift (hm _ _)).bind fun desired => ?_
    exact (Task.honest_pure _).ite ((Task.honest_ask _).bind fun _ => Task.honest_pure _) _

theorem Certificate.honest_convertKey (privateKey : String) : (convertKey privateKey).Honest := by
  unfold convertKey
  cases PrivateKey.toPkcs8 privateKey with
  | ok der => exact Task.honest_pure _
  | error e => exact (Task.honest_note (.keyNotConverted e) nofun).bind fun _ => Task.honest_pure _

theorem User.honest_readAddress (key : ObjectKey) : (readAddress key).Honest := by
  refine (Task.honest_ask _).bind fun found => (Task.honest_require _ _).bind fun i => ?_
  exact ((Task.honest_throw _).bind fun _ => Task.honest_require _ _).ite
    (Task.honest_require _ _) _

namespace Source

/-- The work on a target is honest. -/
theorem honest_task (s : Source) (mount : MountSettings) (draw : Draw) (key : ObjectKey) :
    (s.task mount draw key).Honest := by
  cases s with
  | certificate =>
    refine (Task.honest_ask _).bind fun found => (Task.honest_require _ _).bind fun c => ?_
    refine (Task.honest_require _ _).bind fun name => ?_
    refine (Task.honest_require _ _).bind fun issued => ?_
    refine (Certificate.honest_convertKey _).bind fun converted => ?_
    exact (Task.honest_note (.reconcilingCertificate _) nofun).bind fun _ =>
      honest_upsert (c.own_shapeSecret _) _ _
  | sqlInstance =>
    refine (Task.honest_ask _).bind fun found => (Task.honest_require _ _).bind fun i => ?_
    refine (Task.honest_require _ _).bind fun resourceId => ?_
    have hrest : (do
        Task.note (.reconcilingInstance ⟨key.namespace, i.policyName resourceId⟩ i.egressAddresses)
        upsert draw.now .policy ⟨key.namespace, i.policyName resourceId⟩
          (i.shapePolicy i.egressAddresses) : Task Operation).Honest :=
      (Task.honest_note (.reconcilingInstance _ _) nofun).bind fun _ =>
        honest_upsert (i.own_shapePolicy _) _ _
    exact ((Task.honest_throw _).bind fun _ => hrest).ite hrest _
  | user =>
    refine (Task.honest_ask _).bind fun found => (Task.honest_require _ _).bind fun u => ?_
    refine (Task.honest_require _ _).bind fun envPrefix => ?_
    refine (Task.honest_require _ _).bind fun database => ?_
    refine (Task.honest_require _ _).bind fun ref => ?_
    refine (User.honest_readAddress _).bind fun host => ?_
    have hrest := (Task.honest_note (.reconcilingUser ⟨key.namespace, ref.name⟩ envPrefix database)
      nofun).bind fun _ => honest_upsert
        (u.own_shapeSecret ⟨envPrefix, host, database, u.username, mount.paths⟩ draw.seed) draw.now
          ⟨key.namespace, ref.name⟩
    exact ((Task.honest_throw _).bind fun _ => hrest).ite hrest _

end Source

/-- The answer is to look at the source again after some time. -/
def Action.putsOff : Except Failure Action → Bool
  | .ok (.requeue _) => true
  | .ok .awaitChange | .error _ => false

namespace Action

variable {result : Except Failure Operation}

theorem putsOff_ofResult :
    putsOff (ofResult result) = true ↔
      ∃ failure, result = .error failure ∧ failure.kind = .temporary := by
  cases result with
  | ok op => simp [ofResult, putsOff]
  | error failure => cases hk : failure.kind <;> simp [ofResult, putsOff, hk]

/-- Only a permanent failure is surfaced, and as it is. -/
theorem ofResult_eq_error {failure : Failure} (h : ofResult result = .error failure) :
    result = .error failure ∧ failure.kind = .permanent := by
  cases result with
  | ok op => cases h
  | error found => cases hk : found.kind <;> simp_all [ofResult]

end Action

/-- The report of a result is counted exactly if the source is put off. -/
theorem Requeues.countIn_report (s : Source) (result : Except Failure Operation) :
    Requeues.countIn [s.report result] =
      if Action.putsOff (Action.ofResult result) then 1 else 0 := by
  cases result with
  | ok op => rfl
  | error failure =>
    cases hk : failure.kind <;>
      simp [Source.report, Action.ofResult, hk, Requeues.countIn, Action.putsOff]

/-- A reconcile that fails has had no write accepted. -/
theorem Source.Course.unwritten_of_error {s : Source} {mount : MountSettings} {draw : Draw}
    {key : ObjectKey} {h : List Exchange} {failure : Failure}
    (hc : s.Course mount draw key h (.error failure)) : ∀ e ∈ h, e.Unwritten := by
  rcases hc.reads_or_tells with hreads | ⟨reads, w, rfl, hreads, -, -, htells⟩
  · exact fun e he => .inl (hreads e he)
  · refine List.forall_mem_append.mpr ⟨fun e he => .inl (hreads e he), ?_⟩
    refine List.forall_mem_singleton.mpr (.inr ?_)
    rcases htells with ⟨-, hok | hok⟩ | ⟨e, he, -⟩
    · cases hok
    · cases hok
    · rw [he]
      rfl

namespace Session

/-- What happens to a session: a request, or something that others do. -/
inductive Turn where
  | request (source : Source) (draw : Draw) (key : ObjectKey)
  | intervene (act : Intervention)

variable (mount : MountSettings)

/-- The session after a request, or after someone else has acted on its cluster. -/
def turn (s : Session) : Turn → Session
  | .request source draw key => (s.reconcile mount draw source key).state
  | .intervene act => s.withCluster (act.apply s.cluster)

/-- The session after these turns, from the start. -/
def after (turns : List Turn) : Session := turns.foldl (turn mount) {}

/-- The requests among the turns, by their sources, and their answers. -/
def replies (s : Session) : List Turn → List (Source × Except Failure Action)
  | [] => []
  | .request source draw key :: rest =>
    (source, (s.reconcile mount draw source key).value) ::
      replies (s.turn mount (.request source draw key)) rest
  | .intervene act :: rest => replies (s.turn mount (.intervene act)) rest

/-- How many requests of a source were put off. -/
def putOffs (source : Source) (replies : List (Source × Except Failure Action)) : Nat :=
  replies.countP fun reply => decide (reply.1 = source) && Action.putsOff reply.2

theorem putOffs_cons (source other : Source) (answer : Except Failure Action)
    (rest : List (Source × Except Failure Action)) :
    putOffs source ((other, answer) :: rest) =
      putOffs source rest + if other = source ∧ Action.putsOff answer then 1 else 0 := by
  simp [putOffs, List.countP_cons]

variable {mount}

/-- A request adds to its own counter what it is counted for. -/
theorem requeues_reconcile_eq (s : Session) (mount : MountSettings) (draw : Draw)
    (source : Source) (key : ObjectKey) :
    let r := s.reconcile mount draw source key
    r.state.requeues = s.requeues.add source (if Action.putsOff r.value then 1 else 0) := by
  intro r
  let t := s.run draw.now (source.task mount draw key).run
  have hquiet : Requeues.countIn t.log = 0 :=
    (source.honest_task mount draw key).countIn_log_run (Cluster.answer draw.now) s.cluster
  have hcount : Requeues.countIn (t.log ++ [source.report t.value]) =
      if Action.putsOff (Action.ofResult t.value) then 1 else 0 := by
    rw [Requeues.countIn, List.countP_append, ← Requeues.countIn, ← Requeues.countIn, hquiet,
      Requeues.countIn_report, Nat.zero_add]
  have hr : r = ⟨Action.ofResult t.value,
      ⟨t.state, s.requeues.add source (Requeues.countIn (t.log ++ [source.report t.value]))⟩,
      t.history ++ [.logged (source.report t.value)]⟩ := reconcile_eq s mount draw source key
  rw [hr, hcount]

/-- One request counts for its own source if it is put off, and for none otherwise. -/
theorem requeues_reconcile (s : Session) (mount : MountSettings) (draw : Draw)
    (source : Source) (key : ObjectKey) (other : Source) :
    let r := s.reconcile mount draw source key
    r.state.requeues.get other =
      s.requeues.get other + if source = other ∧ Action.putsOff r.value then 1 else 0 := by
  intro r
  rw [requeues_reconcile_eq s mount draw source key]
  by_cases hs : source = other
  · subst hs
    simp [r]
  · simp [Requeues.get_add_of_ne _ _ (Ne.symm hs), hs]

/-- The counters count the answers that put a source off. -/
theorem requeues_foldl (turns : List Turn) (s : Session) (source : Source) :
    (turns.foldl (turn mount) s).requeues.get source =
      s.requeues.get source + putOffs source (replies mount s turns) := by
  induction turns generalizing s with
  | nil => rfl
  | cons next rest ih =>
    cases next with
    | request other draw key =>
      rw [List.foldl_cons, ih, replies, putOffs_cons, turn, requeues_reconcile]
      omega
    | intervene act => exact ih _

/-- What a reconcile has exchanged, and comes to. -/
theorem exists_told (s : Session) (mount : MountSettings) (draw : Draw) (source : Source)
    (key : ObjectKey) :
    let r := s.reconcile mount draw source key
    ∃ result, source.ComesTo r result ∧ Told r.exchanges result := by
  intro r
  obtain ⟨⟨hanswered, hreported⟩, hexchanges, -⟩ :=
    Source.comesTo_run_reconcile source mount draw key (Cluster.answer draw.now) s.cluster
  have htold := (source.honest_task mount draw key).told_run (Cluster.answer draw.now) s.cluster
  rw [← hexchanges] at htold
  exact ⟨_, ⟨hanswered, hreported⟩, htold⟩

/-- A reconcile that comes to a failure has changed no object. -/
theorem sameObjects_of_failure (s : Session) (mount : MountSettings) (draw : Draw)
    (source : Source) (key : ObjectKey) {failure : Failure}
    (h : source.ComesTo (s.reconcile mount draw source key) (.error failure)) :
    s.cluster.SameObjects (s.reconcile mount draw source key).state.cluster := by
  obtain ⟨result, hcomes, hcourse, hreplays⟩ :=
    exists_comesTo (Source.task_always_course source mount draw key) s
  obtain rfl := hcomes.unique h
  exact hreplays.sameObjects hcourse.unwritten_of_error

/-- Whichever call fails, the reconcile is put off for a minute and changes no object;
whatever is surfaced is permanent and no failure of a call; and at every point each
counter tells how many requests of its own source were put off. -/
theorem failed_calls_are_requeued (mount : MountSettings) (turns : List Turn) :
    (∀ source, (after mount turns).requeues.get source =
      putOffs source (replies mount {} turns)) ∧
    ∀ source draw key,
      let r := (after mount turns).reconcile mount draw source key
      ((∃ e ∈ r.exchanges, e.answer.isOk = false) →
        r.value = .ok (.requeue 60) ∧ (after mount turns).cluster.SameObjects r.state.cluster) ∧
      (∀ failure, r.value = .error failure → failure.kind = .permanent ∧ failure.Own ∧
        ∀ e ∈ r.exchanges, e.answer.isOk = true) ∧
      (Action.putsOff r.value = true ↔
        ∃ failure, source.ComesTo r (.error failure) ∧ failure.kind = .temporary) ∧
      ∀ other, r.state.requeues.get other = (after mount turns).requeues.get other +
        if source = other ∧ Action.putsOff r.value then 1 else 0 := by
  refine ⟨fun source => ?_, fun source draw key => ?_⟩
  · refine (requeues_foldl turns {} source).trans ?_
    cases source <;> exact Nat.zero_add _
  intro r
  obtain ⟨result, hcomes, htold⟩ := exists_told (after mount turns) mount draw source key
  refine ⟨fun hfailed => ?_, fun failure hfailure => ?_, ?_,
    requeues_reconcile (after mount turns) mount draw source key⟩
  · obtain ⟨e, rfl⟩ := htold.exists_of_failed hfailed
    exact ⟨hcomes.answered, sameObjects_of_failure _ mount draw source key hcomes⟩
  · obtain ⟨rfl, hkind⟩ := Action.ofResult_eq_error (hcomes.answered.symm.trans hfailure)
    obtain ⟨hown, hok⟩ := htold.of_not_temporary (by rw [hkind]; decide)
    exact ⟨hkind, hown, hok⟩
  · rw [hcomes.answered, Action.putsOff_ofResult]
    constructor
    · rintro ⟨failure, rfl, hkind⟩
      exact ⟨failure, hcomes, hkind⟩
    · rintro ⟨failure, hfailure, hkind⟩
      exact ⟨failure, hcomes.unique hfailure, hkind⟩

end Session

namespace Sample

open Session (Turn)

/-- The secret of a user was created, the user got another prefix, and another writer is
about to come in between the operator's read and write of the secret. -/
def contending : List Turn :=
  [.intervene (.insert .sqlInstance privateDatabase time),
    .intervene (.insert .user (account "OLD") time), .request .user handOut.draw handOut.key,
    .intervene (.insert .user (account "NEW") time), .intervene (.armRace .secret)]

end Sample

namespace Session

open Sample

/-- A write that comes too late is refused, and the request for it is put off and counted. -/
theorem failed_calls_are_requeued_of_conflict :
    let s := after {} contending
    let r := s.reconcile {} handOut.draw .user handOut.key
    (∃ e ∈ r.exchanges, e.call.isWrite = true ∧ e.answer.isOk = false) ∧
      r.value = .ok (.requeue 60) ∧ s.cluster.SameObjects r.state.cluster ∧
      r.state.requeues.get .user = 1 := by
  intro s r
  have hrefused : (r.exchanges.any fun e => e.call.isWrite && !e.answer.isOk) = true := by
    decide +kernel
  obtain ⟨e, he, hwrite⟩ := List.any_eq_true.mp hrefused
  obtain ⟨hw, ha⟩ : e.call.isWrite = true ∧ e.answer.isOk = false := by simpa using hwrite
  obtain ⟨hcounts, hall⟩ := failed_calls_are_requeued {} contending
  obtain ⟨hfailed, -, -, hcounted⟩ := hall .user handOut.draw handOut.key
  obtain ⟨hvalue, hsame⟩ := hfailed ⟨e, he, ha⟩
  have hbefore : putOffs .user (replies {} {} contending) = 0 := by decide +kernel
  refine ⟨⟨e, he, hw, ha⟩, hvalue, hsame, (hcounted .user).trans ?_⟩
  rw [hcounts, hbefore, hvalue]
  rfl

end Session

end SqlOperator
