import SqlOperator.Proofs.Program.Rest
import SqlOperator.Proofs.Reconcile.Outcome
import SqlOperator.Proofs.Upsert.Alone

/-!
# Reconciles that run alone

In a quiet cluster what a reconcile comes to is a function of what is stored: it makes
its plan from the source, and the instance of a user, as they are there, and carries it
out in one step of the store of its target.
-/

namespace SqlOperator

theorem Plan.carryOut_always {kind : Kind} (p : Plan kind) (now : Timestamp) :
    (p.carryOut now).run.Always (Upsert.Calls now p.target p.mutate)
      (Upsert.Ends now p.target p.mutate) [] :=
  (Task.always_announce_bind _ _).mpr (upsert_always now kind p.target p.mutate)

theorem Task.yields_require {α σ : Type} {handler : Handler σ} {state : σ} (value : Option α)
    (obstacle : Obstacle) :
    Yields handler state (require value obstacle) (required value obstacle) := by
  rw [← lift_required]
  exact yields_lift _

/-- A value that is asked for and has to be there is the one that is stored. -/
theorem Cluster.Quiet.yields_get {c : Cluster} (hq : c.Quiet) (now : Timestamp) (kind : Kind)
    (key : ObjectKey) (obstacle : Obstacle) {α : Type} {f : kind.Object → Task α}
    {g : kind.Object → Except Failure α}
    (hf : ∀ o, Task.Yields (answer now) c (f o) (g o)) :
    Task.Yields (answer now) c
      (Task.ask (.get kind key) >>= fun found => Task.require found obstacle >>= f)
      (required (c.stored? kind key) obstacle >>= g) := by
  have hask : Task.Yields (answer now) c (Task.ask (.get kind key)) (.ok (c.stored? kind key)) :=
    Task.rests_ask rfl ((hq.calm kind).answer_get now key)
  exact Task.Yields.bind (g := fun found => required found obstacle >>= g) hask fun found _ =>
    (Task.yields_require found obstacle).bind fun o _ => hf o

namespace Source

variable (s : Source) (mount : MountSettings) (draw : Draw) (key : ObjectKey) (c : Cluster)

/-- The plan that follows from what is stored. -/
def planIn (seed : PasswordSeed) : Except Failure (Plan s.target) :=
  match s with
  | .certificate => do
    let x ← required (c.stored? .certificate key) (.sourceMissing .certificate)
    Certificate.plan x mount.layout key.namespace
  | .sqlInstance => do
    let i ← required (c.stored? .sqlInstance key) (.sourceMissing .sqlInstance)
    Instance.plan i key.namespace
  | .user => do
    let u ← required (c.stored? .user key) (.sourceMissing .user)
    let o ← User.order u
    let iKey := User.instanceKey u key.namespace
    let i ← required (c.stored? .sqlInstance iKey) (.instanceMissing iKey)
    User.plan u mount.paths seed key.namespace o i

/-- What the work on the target comes to, done in one step. -/
def resultIn : Except Failure Operation := do
  let p ← s.planIn mount key c draw.seed
  ((c.store s.target).upsert draw.now draw.now p.target p.mutate).1

variable {s mount draw key c}

/-- In a quiet cluster the plan is prepared from what is stored. -/
theorem yields_prepare (s : Source) (mount : MountSettings) (key : ObjectKey) (hq : c.Quiet)
    (now : Timestamp) (seed : PasswordSeed) :
    Task.Yields (Cluster.answer now) c (s.prepare mount seed key)
      (s.planIn mount key c seed) := by
  cases s with
  | certificate => exact hq.yields_get now _ _ _ fun _ => Task.yields_lift _
  | sqlInstance => exact hq.yields_get now _ _ _ fun _ => Task.yields_lift _
  | user =>
    refine hq.yields_get now _ _ _ fun u => (Task.yields_lift _).bind fun o _ => ?_
    exact hq.yields_get now _ _ _ fun _ => Task.yields_lift _

/-- What is planned is for the target of the source that is stored, and shapes it for
this source. -/
theorem inputs_of_planIn (hq : c.Quiet) {seed : PasswordSeed} {p : Plan s.target}
    (h : s.planIn mount key c seed = .ok p) :
    ∃ x, c.stored? s.kind key = some x ∧ s.targetKey? key.namespace x = some p.target ∧
      s.Shaping x p.mutate := by
  obtain ⟨history, hrun, -⟩ := yields_prepare s mount key hq default seed
  have hprepared := (prepare_always s mount seed key).ends_run (Cluster.answer default) c
  have hreplays := Cluster.replays_run default (s.prepare mount seed key).run c
  rw [hrun, h] at hprepared hreplays
  obtain ⟨x, hinputs, htarget, hshaping⟩ := hprepared.inputs
  exact ⟨x, (hinputs.stored?_and_store_eq hreplays).1, htarget, hshaping⟩

/-- What a successful reconcile has brought about where `c` has become `d`: the target of
the source `x` is there and belongs to `x`. -/
structure BringsAbout (s : Source) (key : ObjectKey) (op : Operation) (c d : Cluster)
    (x : s.kind.Object) (target : ObjectKey) (stored : s.target.Object) : Prop where
  read : c.stored? s.kind key = some x
  named : s.targetKey? key.namespace x = some target
  left : d.stored? s.target target = some stored
  belongs : (s.target.metadata stored).BelongsTo (s.kind.ownerReference x)
  created_iff : op = .created ↔ c.stored? s.target target = none
  unchanged_iff : op = .unchanged ↔ d = c

/-- What a reconcile that runs alone comes to, where it leads to, and what it exchanges. -/
inductive Alone (s : Source) (key : ObjectKey) (c : Cluster) :
    Except Failure Operation → Cluster → List Exchange → Prop where
  | failed {h : List Exchange} (failure : Failure) :
      (∀ e ∈ h, e.call.isWrite = false) → Alone s key c (.error failure) c h
  | succeeded {op : Operation} {d : Cluster} {x : s.kind.Object} {target : ObjectKey}
      {stored : s.target.Object} (h : List Exchange) :
      s.BringsAbout key op c d x target stored → Alone s key c (.ok op) d h

theorem Alone.of_error {failure : Failure} {d : Cluster} {h : List Exchange}
    (ha : s.Alone key c (.error failure) d h) : d = c ∧ ∀ e ∈ h, e.call.isWrite = false := by
  cases ha with
  | failed _ hh => exact ⟨rfl, hh⟩

theorem Alone.of_ok {op : Operation} {d : Cluster} {h : List Exchange}
    (ha : s.Alone key c (.ok op) d h) :
    ∃ x target stored, s.BringsAbout key op c d x target stored := by
  cases ha with
  | succeeded _ hb => exact ⟨_, _, _, hb⟩

/-- An upsert in one step for the target of a stored source. -/
theorem alone_upsert {x : s.kind.Object} {p : Plan s.target} (hc : c.Consistent)
    (hx : c.stored? s.kind key = some x) (htarget : s.targetKey? key.namespace x = some p.target)
    (hm : p.mutate.ClaimsFor (s.kind.ownerReference x) (s.kind.metadata x)) {now : Timestamp}
    {h : List Exchange} :
    let done := (c.store s.target).upsert now now p.target p.mutate
    ((∃ failure, done.1 = .error failure) → ∀ e ∈ h, e.call.isWrite = false) →
      s.Alone key c done.1 (c.setStore s.target done.2) h := by
  intro done hh
  cases hshape : p.mutate.shape p.target (c.stored? s.target p.target) with
  | error failure =>
    have hdone : done = (.error failure, c.store s.target) := MemoryStore.upsert_of_error hshape
    rw [hdone] at hh ⊢
    rw [Cluster.setStore_store]
    exact .failed failure (hh ⟨failure, rfl⟩)
  | ok desired =>
    obtain ⟨op, t, stored, hdone, hcreated, hunchanged, hstored, hb⟩ :=
      MemoryStore.exists_upsert_of_ok (hc s.target) hm hshape
    rw [show done = (.ok op, t) from hdone]
    refine .succeeded h ⟨hx, htarget, ?_, hb, hcreated, hunchanged.trans ⟨?_, ?_⟩⟩
    · rw [Cluster.stored?_setStore_self]
      exact hstored
    · rintro rfl
      exact Cluster.setStore_store c s.target
    · intro hd
      rw [← c.store_setStore_self s.target t, hd]

/-- The work on the target, done alone in a quiet cluster: if there is a plan, it is carried
out in one step of the store of its target. Work that fails writes nothing. -/
theorem run_task_alone (s : Source) (mount : MountSettings) (draw : Draw) (key : ObjectKey)
    (hq : c.Quiet) (hc : c.Consistent) :
    let t := (s.task mount draw key).run.run (Cluster.answer draw.now) c
    t.value = s.resultIn mount draw key c ∧
      (match s.planIn mount key c draw.seed with
        | .error _ => t.state = c
        | .ok p => t.state = c.setStore s.target
            ((c.store s.target).upsert draw.now draw.now p.target p.mutate).2) ∧
      ((∃ failure, t.value = .error failure) → ∀ e ∈ t.exchanges, e.call.isWrite = false) := by
  intro t
  have ht : t = (s.prepare mount draw.seed key >>= fun p =>
      p.carryOut draw.now).run.run (Cluster.answer draw.now) c := by
    rw [← task_eq]
  have hprepare := yields_prepare s mount key hq draw.now draw.seed
  cases hplan : s.planIn mount key c draw.seed with
  | error failure =>
    rw [hplan] at hprepare
    obtain ⟨history, hrun, hh⟩ := hprepare.bind (f := fun p => p.carryOut draw.now)
      (g := fun _ => .error failure) nofun
    rw [ht, hrun, resultIn, hplan]
    exact ⟨rfl, rfl, fun _ e => Run.isWrite_eq_false_of_harmless hh⟩
  | ok p =>
    rw [hplan] at hprepare
    obtain ⟨history, hh, hrun⟩ := hprepare.exists_run_bind fun p => p.carryOut draw.now
    obtain ⟨x, -, -, hshaping⟩ := inputs_of_planIn hq hplan
    have hends := (p.carryOut_always draw.now).ends_run (Cluster.answer draw.now) c
    have hreplays := Cluster.replays_run draw.now (p.carryOut draw.now).run c
    obtain ⟨hvalue, hstate, hfails⟩ := hends.eq_upsert hq hc hreplays hshaping.claimsFor
    have hreads : ∀ e ∈ Run.exchanges ⟨(), c, history⟩, e.call.isWrite = false :=
      fun e => Run.isWrite_eq_false_of_harmless hh
    have hexchanges : t.exchanges = Run.exchanges ⟨(), c, history⟩ ++
        ((p.carryOut draw.now).run.run (Cluster.answer draw.now) c).exchanges := by
      rw [ht, hrun]
      exact List.filterMap_append ..
    rw [hexchanges, ht, hrun, resultIn, hplan]
    exact ⟨hvalue, hstate, fun hf => List.forall_mem_append.mpr ⟨hreads, hfails hf⟩⟩

/-- What the work on the target brings about if it is done alone in a quiet cluster. -/
theorem alone_task (s : Source) (mount : MountSettings) (draw : Draw) (key : ObjectKey)
    (hq : c.Quiet) (hc : c.Consistent) :
    let t := (s.task mount draw key).run.run (Cluster.answer draw.now) c
    t.value = s.resultIn mount draw key c ∧ s.Alone key c t.value t.state t.exchanges := by
  intro t
  obtain ⟨hvalue, hstate, hreads⟩ := run_task_alone s mount draw key hq hc
  refine ⟨hvalue, ?_⟩
  change t.value = _ at hvalue
  rw [resultIn] at hvalue
  cases hplan : s.planIn mount key c draw.seed with
  | error failure =>
    rw [hplan] at hvalue hstate
    rw [show t.state = c from hstate, hvalue]
    exact .failed failure (hreads ⟨failure, hvalue⟩)
  | ok p =>
    rw [hplan] at hvalue hstate
    obtain ⟨x, hx, htarget, hshaping⟩ := inputs_of_planIn hq hplan
    rw [show t.state = c.setStore _ _ from hstate, hvalue]
    exact alone_upsert hc hx htarget hshaping.claimsFor fun hf => hreads (hvalue ▸ hf)

/-- A reconcile that runs alone in a quiet cluster. -/
theorem alone_reconcile (s : Source) (mount : MountSettings) (draw : Draw) (key : ObjectKey)
    (hq : c.Quiet) (hc : c.Consistent) :
    let r := (s.reconcile mount draw key).run (Cluster.answer draw.now) c
    s.ComesTo r (s.resultIn mount draw key c) ∧
      s.Alone key c (s.resultIn mount draw key c) r.state r.exchanges := by
  intro r
  obtain ⟨hcomes, hexchanges, hstate⟩ :=
    comesTo_run_reconcile s mount draw key (Cluster.answer draw.now) c
  obtain ⟨hvalue, halone⟩ := alone_task s mount draw key hq hc
  rw [hvalue] at hcomes halone
  rw [hexchanges, hstate]
  exact ⟨hcomes, halone⟩

end Source

end SqlOperator
