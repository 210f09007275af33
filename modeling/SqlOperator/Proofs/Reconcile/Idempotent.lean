import SqlOperator.Proofs.Credentials.PasswordStability
import SqlOperator.Proofs.Program.Rest
import SqlOperator.Proofs.Reconcile.Outcome
import SqlOperator.Proofs.Reconcile.Settled

/-!
# Reconciles are idempotent

A reconcile that succeeded has nothing left to do: the same reconcile right after
it ends in an unchanged target, by reading alone. It makes the plan that was
carried out before, for what was read is still there, up to what a store sets; and
that plan leaves the target as it is, for a password that is there already stays.
-/

namespace SqlOperator

/-- Where a mutation leaves a target as it is, so does one that claims it for the same
object, takes over the same, and asks for no other content. -/
theorem Mutation.Shapes.fixes_of_fixes {kind : Kind} {mutate other : Mutation kind}
    {owner owner' : OwnerReference} {source source' : Metadata}
    {content content' : kind.Object → Prop} (h : mutate.Shapes owner source content)
    (h' : other.Shapes owner' source' content') (ho : owner.sameObject owner' = true)
    (hl : source.labels = source'.labels) (ha : source.annotations = source'.annotations)
    (hc : ∀ o, content o → content' o) {o : kind.Object} (hf : mutate.Fixes o) :
    other.Fixes o := by
  obtain ⟨⟨hmanaged, found, hr, hversion, hkind, hname⟩, hm, ho'⟩ := h.fixes_iff.mp hf
  obtain ⟨hversion', hkind', hname'⟩ := (Metadata.sameObject_iff owner owner').mp ho
  refine h'.fixes_iff.mpr ⟨⟨hmanaged, found, hr, ?_⟩, ?_, hc o ho'⟩
  · exact ⟨hversion.trans hversion', hkind.trans hkind', hname.trans hname'⟩
  · rw [← Metadata.inheritFrom_congr hl ha, hm]

/-- The plan `q` has the target of `p`, puts nothing off, and leaves what `p` leaves. -/
structure Plan.Repeats {kind : Kind} (p q : Plan kind) : Prop where
  target : q.target = p.target
  harmless : ∀ event ∈ q.notes, (Step.logged event).Harmless
  fixes : ∀ o, p.mutate.Fixes o → q.mutate.Fixes o

section Repeats

variable {ns : String}

theorem Certificate.harmless_planFor (c : Certificate) (layout : FileLayout)
    (target : ObjectKey) (issued : Issued) :
    ∀ event ∈ (c.planFor layout target issued).notes, (Step.logged event).Harmless := by
  unfold planFor
  cases PrivateKey.toPkcs8 issued.privateKey <;> simp [Step.Harmless]

theorem Certificate.exists_plan_repeats {c c' : Certificate} {layout : FileLayout}
    {p : Plan .secret} (hc : Kind.SameContent .certificate c c')
    (hp : c.plan layout ns = .ok p) : ∃ q, c'.plan layout ns = .ok q ∧ p.Repeats q := by
  obtain ⟨version, time, uid, rfl⟩ := hc
  obtain ⟨name, issued, hname, hissued, rfl⟩ := plan_eq_ok.mp hp
  refine ⟨_, plan_eq_ok.mpr ⟨name, issued, hname, hissued, rfl⟩, ?_, ?_, fun o hf => ?_⟩
  · rw [target_planFor, target_planFor]
  · exact harmless_planFor _ layout _ issued
  · rw [mutate_planFor] at hf ⊢
    refine (shapeSecret_shapes c _).fixes_of_fixes (shapeSecret_shapes _ _) ?_ rfl rfl
      (fun _ => id) hf
    exact (Metadata.sameObject_iff _ _).mpr ⟨rfl, rfl, rfl⟩

/-- An instance with the same identifier and addresses, and the same metadata up to what a
store sets, has the same plan. -/
theorem Instance.exists_plan_repeats_of_eq {i i' : Instance} {p : Plan .policy}
    (hspec : i'.spec = i.spec) (haddresses : i'.egressAddresses = i.egressAddresses)
    (hmetadata : ∃ version time uid, i'.metadata = { i.metadata with
      resourceVersion := version, creationTimestamp := time, uid := uid })
    (hp : i.plan ns = .ok p) : ∃ q, i'.plan ns = .ok q ∧ p.Repeats q := by
  obtain ⟨version, time, uid, hmetadata⟩ := hmetadata
  obtain ⟨resourceId, hid, hne, rfl⟩ := plan_eq_ok.mp hp
  refine ⟨_, plan_eq_ok.mpr ⟨resourceId, hspec ▸ hid, haddresses ▸ hne, rfl⟩, ?_, ?_,
    fun o hf => ?_⟩
  · simp [policyName, hmetadata, Metadata.anyName]
  · simp [Step.Harmless]
  · have howner : (Kind.ownerReference .sqlInstance i).sameObject
        (Kind.ownerReference .sqlInstance i') = true :=
      (Metadata.sameObject_iff _ _).mpr
        (by simp [Kind.ownerReference, Kind.metadata, hmetadata, Metadata.anyName])
    have happ : i'.app = i.app := by simp [app, Metadata.label?, hmetadata]
    rw [haddresses]
    refine (shapePolicy_shapes i _).fixes_of_fixes (shapePolicy_shapes i' _) howner
      (by simp [hmetadata]) (by simp [hmetadata]) (fun o hspec => ?_) hf
    rw [happ]
    exact hspec

theorem Instance.exists_plan_repeats {i i' : Instance} {p : Plan .policy}
    (hi : Kind.SameContent .sqlInstance i i') (hp : i.plan ns = .ok p) :
    ∃ q, i'.plan ns = .ok q ∧ p.Repeats q := by
  obtain ⟨version, time, uid, rfl⟩ := hi
  exact exists_plan_repeats_of_eq (i := i) rfl rfl ⟨version, time, uid, rfl⟩ hp

/-- A user's plan is repeated with any other new password at hand. -/
theorem User.exists_plan_repeats {u u' : User} {i i' : Instance} {paths : FilePaths}
    {seed : PasswordSeed} {o : Order} {p : Plan .secret} (hu : Kind.SameContent .user u u')
    (hi : Kind.SameContent .sqlInstance i i') (hp : u.plan paths seed ns o i = .ok p)
    (other : PasswordSeed) : ∃ q, u'.plan paths other ns o i' = .ok q ∧ p.Repeats q := by
  obtain ⟨version, time, uid, rfl⟩ := hu
  obtain ⟨version', time', uid', rfl⟩ := hi
  obtain ⟨hprivate, host, hhost, hkey, rfl⟩ := plan_eq_ok.mp hp
  refine ⟨_, plan_eq_ok.mpr ⟨hprivate, host, hhost, hkey, rfl⟩, rfl, ?_, fun secret hf => ?_⟩
  · simp [Step.Harmless]
  · refine (shapeSecret_shapes u _ seed).fixes_of_fixes (shapeSecret_shapes _ _ other) ?_ rfl rfl
      (fun _ h => h.reseed other) hf
    exact (Metadata.sameObject_iff _ _).mpr ⟨rfl, rfl, rfl⟩

end Repeats

namespace Cluster

variable {d : Cluster} {kind : Kind} {key : ObjectKey}

theorem Calm.rests_ask (h : d.Calm kind) (now : Timestamp) (key : ObjectKey) :
    Task.Rests (answer now) d (Task.ask (.get kind key)) (d.stored? kind key) :=
  Task.rests_ask rfl (h.answer_get now key)

theorem Shows.rests_ask {o : kind.Object} (h : d.Shows kind key o) (now : Timestamp) :
    ∃ p, Task.Rests (answer now) d (Task.ask (.get kind key)) (some p) ∧ kind.SameContent o p := by
  obtain ⟨p, hp, hsame⟩ := h.stored
  exact ⟨p, hp ▸ h.calm.rests_ask now key, hsame⟩

end Cluster

theorem Task.rests_announce {σ : Type} {handler : Handler σ} {state : σ} {events : List Event}
    (h : ∀ event ∈ events, (Step.logged event).Harmless) :
    Rests handler state (announce events) () := by
  induction events with
  | nil => exact rests_pure ()
  | cons event rest ih =>
    obtain ⟨hevent, hrest⟩ := List.forall_mem_cons.mp h
    exact (rests_note hevent).bind (ih hrest)

/-- An upsert rests on a target that its mutation leaves as it is. -/
theorem rests_upsert {d : Cluster} {kind : Kind} {key : ObjectKey} {mutate : Mutation kind}
    {o : kind.Object} (hd : d.Calm kind) (ho : d.stored? kind key = some o)
    (hf : mutate.Fixes o) (now clock : Timestamp) :
    Task.Rests (Cluster.answer clock) d (upsert now kind key mutate) .unchanged := by
  refine (hd.rests_ask clock key).bind ?_
  rw [ho]
  refine (Task.rests_lift hf).bind ?_
  rw [if_pos rfl]
  exact Task.rests_pure _

theorem Plan.Repeats.rests_carryOut {d : Cluster} {kind : Kind} {p q : Plan kind}
    {o : kind.Object} (h : p.Repeats q) (hd : d.Calm kind)
    (ho : d.stored? kind p.target = some o) (hf : p.mutate.Fixes o) (now clock : Timestamp) :
    Task.Rests (Cluster.answer clock) d (q.carryOut now) .unchanged :=
  (Task.rests_announce h.harmless).bind
    (rests_upsert hd (h.target.symm ▸ ho) (h.fixes o hf) now clock)

namespace Source

variable {s : Source} {mount : MountSettings} {draw : Draw} {key : ObjectKey}

/-- After successful calls for its target a plan can be prepared again. -/
theorem Prepared.exists_repeats {seed : PasswordSeed} {read h : List Exchange}
    {p : Plan s.target} (hp : s.Prepared mount key seed read p) {c d : Cluster}
    {clock : Timestamp} (hr : c.Replays clock (read ++ h) d)
    (hh : ∀ e ∈ h, e.call.kind = s.target ∧ e.answer.isOk = true) (other : PasswordSeed)
    (now : Timestamp) :
    ∃ q, Task.Rests (Cluster.answer now) d (s.prepare mount other key) q ∧ p.Repeats q := by
  have hok : ∀ e ∈ h, e.answer.isOk = true := fun e he => (hh e he).2
  cases s with
  | certificate =>
    obtain ⟨c, rfl, hp⟩ := hp
    have hshows := hr.shows hok fun e he => (hh e he).1 ▸ nofun
    obtain ⟨c', hask, hc⟩ := hshows.rests_ask now
    obtain ⟨q, hq, hrep⟩ := Certificate.exists_plan_repeats hc hp
    exact ⟨q, hask.bind ((Task.rests_require rfl _).bind (Task.rests_lift hq)), hrep⟩
  | sqlInstance =>
    obtain ⟨i, rfl, hp⟩ := hp
    have hshows := hr.shows hok fun e he => (hh e he).1 ▸ nofun
    obtain ⟨i', hask, hi⟩ := hshows.rests_ask now
    obtain ⟨q, hq, hrep⟩ := Instance.exists_plan_repeats hi hp
    exact ⟨q, hask.bind ((Task.rests_require rfl _).bind (Task.rests_lift hq)), hrep⟩
  | user =>
    obtain ⟨u, o, i, rfl, ho, hp⟩ := hp
    have hkind : ∀ e ∈ h, e.call.kind ≠ .user ∧ e.call.kind ≠ .sqlInstance :=
      fun e he => (hh e he).1 ▸ ⟨nofun, nofun⟩
    have huser := hr.shows (List.forall_mem_cons.mpr ⟨rfl, hok⟩)
      (List.forall_mem_cons.mpr ⟨nofun, fun e he => (hkind e he).1⟩)
    have hinstance := hr.2.shows hok fun e he => (hkind e he).2
    obtain ⟨u', hask, hu⟩ := huser.rests_ask now
    obtain ⟨i', hask', hi⟩ := hinstance.rests_ask now
    obtain ⟨q, hq, hrep⟩ := User.exists_plan_repeats hu hi hp other
    obtain ⟨version, time, uid, rfl⟩ := hu
    refine ⟨q, hask.bind ((Task.rests_require rfl _).bind ?_), hrep⟩
    refine (Task.rests_lift ho).bind (hask'.bind ?_)
    exact (Task.rests_require rfl _).bind (Task.rests_lift hq)

/-- Where a reconcile has succeeded, every later one rests. -/
theorem Ends.rests {h : List Exchange} {op : Operation}
    (he : s.Ends mount draw key h (.ok op)) {c d : Cluster} {clock : Timestamp}
    (hc : c.Consistent) (hr : c.Replays clock h d) (later : Draw) (now : Timestamp) :
    Task.Rests (Cluster.answer now) d (s.task mount later key) .unchanged := by
  cases he with
  | upserted hp hu =>
    obtain ⟨q, hprepare, hrep⟩ := hp.exists_repeats hr hu.calls_ok later.seed now
    obtain ⟨m, hread, hupsert⟩ := Cluster.replays_append.mp hr
    obtain ⟨x, -, -, hshaping⟩ := hp.shaping
    obtain ⟨content, hs⟩ := hshaping.exists_shapes
    obtain ⟨hcalm, o, ho, hf⟩ := hu.settles (hread.consistent hc) hupsert hs
    rw [task_eq]
    exact hprepare.bind (hrep.rests_carryOut hcalm ho hf later.now now)

end Source

namespace Session

variable {s : Session} {mount : MountSettings} {draw : Draw} {source : Source} {key : ObjectKey}

/-- A reconcile whose work rests only reports an unchanged target. -/
theorem reconcile_of_rests
    (h : Task.Rests (Cluster.answer draw.now) s.cluster (source.task mount draw key) .unchanged) :
    ∃ history, (∀ step ∈ history, step.Harmless) ∧
      s.reconcile mount draw source key =
        { value := .ok .awaitChange
          state := s
          history := history ++ [.logged (.reconciled .unchanged source.target.name)] } := by
  obtain ⟨history, hrun, hh⟩ := h
  refine ⟨history, hh, ?_⟩
  have hsession : s.run draw.now (source.task mount draw key).run =
      ⟨.ok .unchanged, s.cluster, history⟩ := hrun
  have hquiet : Requeues.countIn ((s.run draw.now (source.task mount draw key).run).log ++
      [source.report (.ok .unchanged)]) = 0 := by
    rw [hsession, Requeues.countIn, List.countP_append, ← Requeues.countIn,
      Run.countIn_log_of_harmless hh]
    rfl
  have hadd : s.requeues.add source 0 = s.requeues := by
    cases source <;> rfl
  rw [reconcile_eq]
  simp only [hsession] at hquiet ⊢
  rw [hquiet, hadd]
  rfl

/-- Reconciles are idempotent, from every state that others and reconciles can lead to.
If a reconcile has created, updated or found unchanged, then the same reconcile once more,
at any time and with any random bytes, finds unchanged, writes nothing, and leaves the
stores, with all versions and stamps, and the whole session as they are. -/
theorem reconcile_idempotent (moves : List (Move Job)) (requeues : Requeues) (source : Source)
    (mount : MountSettings) (first second : Draw) (key : ObjectKey) (op : Operation) :
    let before : Session := ⟨(System.reconciling moves).cluster, requeues⟩
    let once := before.reconcile mount first source key
    let again := once.state.reconcile mount second source key
    once.log.getLast? = some (.reconciled op source.target.name) →
      again.log.getLast? = some (.reconciled .unchanged source.target.name) ∧
        again.value = .ok .awaitChange ∧
        (∀ e ∈ again.exchanges, e.call.isWrite = false) ∧
        again.state = once.state := by
  intro before once again h
  obtain ⟨history, hends, hreplays⟩ := ends_of_reported h
  have hc := (System.sound_reconciling moves).consistent
  obtain ⟨steps, hh, hagain⟩ :=
    reconcile_of_rests (hends.rests hc hreplays second second.now)
  change again = _ at hagain
  have hharmless : ∀ step ∈ again.history, step.Harmless := by
    rw [hagain]
    exact List.forall_mem_append.mpr ⟨hh, List.forall_mem_singleton.mpr nofun⟩
  refine ⟨?_, ?_, fun e he => Run.isWrite_eq_false_of_harmless hharmless he, ?_⟩
  · rw [hagain]
    simp [Run.log]
  · rw [hagain]
  · rw [hagain]

end Session

namespace Sample

/-- A later time, and other random bytes. -/
def laterDraw : Draw := ⟨⟨60, false⟩, ⟨List.replicate 32 1, rfl⟩⟩

end Sample

namespace Session

open Sample

/-- A user's secret that was just created stays as it is, although the second reconcile
would have made another password. -/
theorem reconcile_idempotent_of_created_secret :
    ∃ before : Session,
      (before.reconcile {} handOut.draw .user handOut.key).log.getLast? =
        some (.reconciled .created "Secret") ∧
      let after := (before.reconcile {} handOut.draw .user handOut.key).state
      (after.reconcile {} laterDraw .user handOut.key).state = after := by
  refine ⟨⟨(System.reconciling handingOut).cluster, {}⟩, ?_⟩
  have hcreated : (reconcile ⟨(System.reconciling handingOut).cluster, {}⟩ {} handOut.draw .user
      handOut.key).log.getLast? = some (.reconciled .created "Secret") := by
    decide +kernel
  obtain ⟨-, -, -, hstate⟩ :=
    reconcile_idempotent handingOut {} .user {} handOut.draw laterDraw handOut.key .created hcreated
  exact ⟨hcreated, hstate⟩

end Session

end SqlOperator
