import SqlOperator.Proofs.Ownership.Exclusive
import SqlOperator.Proofs.Reconcile.Alone
import SqlOperator.Proofs.Reconcile.Requeueing
import SqlOperator.Proofs.Upsert.Unqueued

/-!
# Instances that contend for one policy

The name of a policy is put together from the name of its instance and a resource
identifier, with hyphens that both of them may contain. So two instances can have one
name for their policies, and then the first of them that is reconciled has the policy;
every later one is refused for good.

The main statement follows a sweep over instances of one namespace, in any order. An
instance that no earlier one contends with gets a policy of its own, and the owner of a
policy stays the first instance with its name.

## Implementation notes

`Cluster.holder?` names the first instance among those visited whose policy has a given
key. The invariant `Swept` says that the policies of the namespace are those of their
holders, and that instances which were not visited are as they were at the start.
-/

namespace SqlOperator

namespace Metadata

/-- Whom a managed target belongs to keeps all others away from it. -/
theorem claim_existing_of_other {m : Metadata} {owner other : OwnerReference}
    (hmanaged : m.label? Label.managedBy = some operatorId)
    (howner : m.ownerReferences = some [owner]) (hne : owner.name ≠ other.name) :
    m.claim .existing other = .error (.ownedByOther m.description owner.kind owner.name) := by
  have hsame : owner.sameObject other = false := by
    simp [OwnerReference.sameObject, hne]
  simp [claim, validateOwnership_of_owned hmanaged howner, hsame, Except.map]

end Metadata

namespace Instance

/-- A policy can be made for the instance: it has a resource identifier, and an address
that pods are let through to. -/
structure Ready (i : Instance) : Prop where
  identified : i.spec.resourceId.isSome = true
  reachable : ∃ a ∈ (i.status.map (·.addresses)).getD [], (reachable? a).isSome = true

/-- The policy under the key is that of the instance: the operator manages it, the
instance is its one owner, and its egress rules are the addresses of the instance. -/
structure Holds (i : Instance) (key : ObjectKey) (policy : NetworkPolicy) : Prop where
  described : policy.metadata.description = key.render
  managed : policy.metadata.label? Label.managedBy = some operatorId
  owned : policy.metadata.ownerReferences = some [Kind.ownerReference .sqlInstance i]
  egress : ∃ rules, policy.spec.bind (·.egress) = some rules ∧
    rules.Perm ((((i.status.map (·.addresses)).getD []).filterMap reachable?).map egressRule)

instance (i : Instance) : Decidable i.Ready :=
  decidable_of_iff (i.spec.resourceId.isSome = true ∧
      ∃ a ∈ (i.status.map InstanceStatus.addresses).getD [], (reachable? a).isSome = true)
    ⟨fun h => ⟨h.1, h.2⟩, fun h => ⟨h.identified, h.reachable⟩⟩

theorem Holds.stamp {i : Instance} {key : ObjectKey} {policy : NetworkPolicy}
    (h : i.Holds key policy) (version : Nat) (now : Timestamp) :
    i.Holds key (Kind.stamp .policy policy version now) :=
  ⟨h.described, h.managed, h.owned, h.egress⟩

theorem Holds.touch {i : Instance} {key : ObjectKey} {policy : NetworkPolicy}
    (h : i.Holds key policy) (now : Timestamp) : i.Holds key (Kind.touch .policy policy now) :=
  ⟨h.described, h.managed, h.owned, h.egress⟩

/-- Its policy is kept from instances with other names. -/
theorem Holds.claim_of_other {i j : Instance} {key : ObjectKey} {policy : NetworkPolicy}
    (h : i.Holds key policy) (hne : i.metadata.anyName ≠ j.metadata.anyName) :
    policy.metadata.claim .existing (Kind.ownerReference .sqlInstance j) =
      .error (.ownedByOther key.render (Kind.name .sqlInstance) i.metadata.anyName) := by
  rw [← h.described]
  exact Metadata.claim_existing_of_other h.managed h.owned hne

theorem Ready.isEmpty_egressAddresses {i : Instance} (h : i.Ready) :
    i.egressAddresses.isEmpty = false := by
  obtain ⟨a, hmem, haddress⟩ := h.reachable
  obtain ⟨address, haddress⟩ := Option.isSome_iff_exists.mp haddress
  have hfound : address ∈ i.egressAddresses :=
    List.mem_mergeSort.mpr (List.mem_filterMap.mpr ⟨a, hmem, haddress⟩)
  exact List.isEmpty_eq_false_iff_exists_mem.mpr ⟨address, hfound⟩

/-- An instance that is ready has a plan for its policy. -/
theorem Ready.exists_plan {i : Instance} (h : i.Ready) {ns : String} {target : ObjectKey}
    (htarget : Source.targetKey? ns .sqlInstance i = some target) :
    ∃ p, i.plan ns = .ok p ∧ p.target = target ∧
      p.mutate = i.shapePolicy i.egressAddresses := by
  obtain ⟨resourceId, hid, rfl⟩ := Option.map_eq_some_iff.mp htarget
  exact ⟨_, plan_eq_ok.mpr ⟨resourceId, hid, h.isEmpty_egressAddresses, rfl⟩, rfl, rfl⟩

/-- What is shaped for a new policy is the policy of the instance. -/
theorem exists_shapePolicy_new (i : Instance) (key : ObjectKey) :
    ∃ desired, i.shapePolicy i.egressAddresses (Kind.blank .policy key) .new = .ok desired ∧
      Kind.key .policy desired = key ∧ i.Holds key desired := by
  have hclaim := Metadata.claim_new (Kind.metadata .policy (Kind.blank .policy key))
    (Kind.ownerReference .sqlInstance i)
  have hshape : ∃ desired, i.shapePolicy i.egressAddresses (Kind.blank .policy key) .new =
      .ok desired ∧ desired.spec = some (policySpec i.app i.egressAddresses) ∧
        desired.metadata.description = key.render :=
    ⟨_, shapePolicy_eq_ok.mpr ⟨_, hclaim, rfl⟩, rfl, rfl⟩
  obtain ⟨desired, hshape, hspec, hdescribed⟩ := hshape
  obtain ⟨hkey, hbelongs, howner⟩ :=
    (i.shapePolicy_claimsFor i.egressAddresses).shaped_new hshape
  refine ⟨desired, hshape, hkey, hdescribed, hbelongs.managed, howner, ?_⟩
  rw [hspec]
  exact ⟨_, rfl, (List.mergeSort_perm _ _).map _⟩

/-- What a reconcile answers for an instance whose policy would have the key of this one,
or of none that was reconciled before. -/
def answerAfter (key : ObjectKey) : Option Instance → Except Failure Action
  | none => .ok .awaitChange
  | some holder => .error (.ofOwnership
      (.ownedByOther key.render (Kind.name .sqlInstance) holder.metadata.anyName))

end Instance

/-- A call that is answered is followed by the rest of the task. -/
theorem Task.run_ask_bind {σ β : Type} {handler : Handler σ} {state next : σ} {call : Call}
    {answer : call.Answer} (h : handler call state = (.ok answer, next))
    (f : call.Answer → Task β) :
    (Task.ask call >>= f).run.run handler state =
      ((f answer).run.run handler next).after (.exchanged ⟨call, .ok answer⟩) := by
  rw [Task.run_bind]
  change Program.run handler (.call call _) state = _
  rw [Program.run, h]
  rfl

namespace Source

variable (mount : MountSettings) (draw : Draw) {key : ObjectKey} {c : Cluster}
  {i : Instance}

/-- With its instance at hand, a reconcile carries out the plan for the policy. -/
theorem run_task_sqlInstance {p : Plan .policy} (hunqueued : c.failures = [])
    (hi : c.stored? .sqlInstance key = some i) (hp : i.plan key.namespace = .ok p) :
    let read := (Cluster.answer draw.now (.get .sqlInstance key) c).2
    let t := (sqlInstance.task mount draw key).run.run (Cluster.answer draw.now) c
    let u := (p.carryOut draw.now).run.run (Cluster.answer draw.now) read
    t.value = u.value ∧ t.state = u.state := by
  intro read t u
  have hanswer : Cluster.answer draw.now (.get .sqlInstance key) c = (.ok (some i), read) :=
    Prod.ext (hi ▸ Cluster.answer_get_of_unqueued hunqueued draw.now .sqlInstance key) rfl
  have hrest : (Task.require (some i) (.sourceMissing .sqlInstance) >>= fun i =>
      Task.lift (i.plan key.namespace) >>= fun p => p.carryOut draw.now) =
        p.carryOut draw.now := by
    simp only [Task.require, pure_bind, hp]
    rfl
  have ht : t = u.after (.exchanged ⟨.get .sqlInstance key, .ok (some i)⟩) := by
    have hreconcile := Instance.reconcile_eq draw.now key
    have hrun := Task.run_ask_bind hanswer fun found =>
      Task.require found (.sourceMissing .sqlInstance) >>= fun i =>
        Task.lift (i.plan key.namespace) >>= fun p => p.carryOut draw.now
    rw [← hreconcile, hrest] at hrun
    exact hrun
  rw [ht]
  exact ⟨rfl, rfl⟩

end Source

namespace Cluster

/-- The first of the instances under these keys whose policy has the key `target`. -/
def holder? (c : Cluster) (keys : List ObjectKey) (target : ObjectKey) : Option Instance :=
  keys.findSome? fun key => (c.stored? .sqlInstance key).filter fun i =>
    Source.targetKey? key.namespace .sqlInstance i = some target

variable {start c d : Cluster} {visited : List ObjectKey} {key target : ObjectKey}
  {i : Instance} {ns : String}

theorem exists_of_holder? (h : start.holder? visited target = some i) :
    ∃ key ∈ visited, start.stored? .sqlInstance key = some i ∧
      Source.targetKey? key.namespace .sqlInstance i = some target := by
  obtain ⟨key, hmem, hfound⟩ := List.exists_of_findSome?_eq_some h
  obtain ⟨hi, htarget⟩ := Option.filter_eq_some_iff.mp hfound
  exact ⟨key, hmem, hi, of_decide_eq_true htarget⟩

/-- One more instance holds its policy unless an earlier one does. -/
theorem holder?_concat (hi : start.stored? .sqlInstance key = some i) (other : ObjectKey) :
    start.holder? (visited ++ [key]) other =
      (start.holder? visited other).or
        (if Source.targetKey? key.namespace .sqlInstance i = some other then some i else none) := by
  rw [holder?, List.findSome?_append, ← holder?]
  congr 1
  by_cases h : Source.targetKey? key.namespace .sqlInstance i = some other <;>
    simp [hi, h, Option.filter]

/-- An instance that is among those visited has its policy held by itself, or by the first
one before it. -/
theorem holder?_of_mem (hi : start.stored? .sqlInstance key = some i)
    (htarget : Source.targetKey? key.namespace .sqlInstance i = some target)
    (earlier later : List ObjectKey) :
    start.holder? (earlier ++ key :: later) target =
      some ((start.holder? earlier target).getD i) := by
  rw [List.append_cons, holder?, List.findSome?_append, ← holder?, holder?_concat hi,
    if_pos htarget]
  cases start.holder? earlier target <;> rfl

/-- The policies of a namespace are those of their holders. -/
structure Served (start : Cluster) (ns : String) (visited : List ObjectKey) (c : Cluster) :
    Prop where
  unqueued : c.failures = []
  free : ∀ target, target.namespace = ns → start.holder? visited target = none →
    c.stored? .policy target = none
  held : ∀ target i, start.holder? visited target = some i →
    ∃ policy, c.stored? .policy target = some policy ∧ i.Holds target policy

/-- Renewed versions of policies do not matter. -/
theorem Served.of_renewed (h : Served start ns visited c) (hd : d.failures = [])
    (hpolicies : ∀ target, d.stored? .policy target = c.stored? .policy target ∨
      ∃ policy version now, c.stored? .policy target = some policy ∧
        d.stored? .policy target = some (Kind.stamp .policy policy version now)) :
    Served start ns visited d := by
  refine ⟨hd, fun target hns hfree => ?_, fun target i hholder => ?_⟩
  · have hnone := h.free target hns hfree
    rcases hpolicies target with hs | ⟨policy, -, -, hp, -⟩
    · exact hs.trans hnone
    · cases hnone.symm.trans hp
  · obtain ⟨policy, hstored, hholds⟩ := h.held target i hholder
    rcases hpolicies target with hs | ⟨found, version, now, hp, hs⟩
    · exact ⟨policy, hs.trans hstored, hholds⟩
    · obtain rfl := Option.some.inj (hstored.symm.trans hp)
      exact ⟨_, hs, hholds.stamp version now⟩

/-- A `get` renews a version at most. -/
theorem Served.get (h : Served start ns visited c) (now : Timestamp) (kind : Kind)
    (key : ObjectKey) : Served start ns visited (answer now (.get kind key) c).2 := by
  have hread := answer_get_of_unqueued h.unqueued now kind key
  refine h.of_renewed ((answer_ok hread).2.trans h.unqueued) fun target => ?_
  rcases stored?_after_get now kind key c .policy target with hs | ⟨-, -, o, version, ho, hs⟩
  · exact .inl hs
  · exact .inr ⟨o, version, now, ho, hs⟩

/-- An instance whose policy nobody holds gets it. -/
theorem Served.admit {policy : NetworkPolicy} (h : Served start ns visited c)
    (hi : start.stored? .sqlInstance key = some i)
    (htarget : Source.targetKey? key.namespace .sqlInstance i = some target)
    (hholder : start.holder? visited target = none) (hd : d.failures = [])
    (hothers : ∀ other, other ≠ target → d.stored? .policy other = c.stored? .policy other)
    (hstored : d.stored? .policy target = some policy) (hholds : i.Holds target policy) :
    Served start ns (visited ++ [key]) d := by
  refine ⟨hd, fun other hns hfree => ?_, fun other j hj => ?_⟩
  · rw [holder?_concat hi, Option.or_eq_none_iff] at hfree
    have hne : other ≠ target := by
      rintro rfl
      rw [if_pos htarget] at hfree
      cases hfree.2
    exact (hothers other hne).trans (h.free other hns hfree.1)
  · rw [holder?_concat hi] at hj
    by_cases hne : other = target
    · subst hne
      rw [hholder, Option.none_or, if_pos htarget] at hj
      obtain rfl := Option.some.inj hj
      exact ⟨policy, hstored, hholds⟩
    · have hother : ¬ Source.targetKey? key.namespace .sqlInstance i = some other :=
        fun ho => hne (Option.some.inj (ho.symm.trans htarget))
      rw [if_neg hother, Option.or_none] at hj
      obtain ⟨found, hfound, hkept⟩ := h.held other j hj
      exact ⟨found, (hothers other hne).trans hfound, hkept⟩

/-- An instance whose policy another one holds changes nothing about it. -/
theorem Served.refuse {holder : Instance} (h : Served start ns visited c)
    (hi : start.stored? .sqlInstance key = some i)
    (htarget : Source.targetKey? key.namespace .sqlInstance i = some target)
    (hholder : start.holder? visited target = some holder) :
    Served start ns (visited ++ [key]) c := by
  have hsame : start.holder? (visited ++ [key]) = start.holder? visited := by
    funext other
    rw [holder?_concat hi]
    by_cases ho : Source.targetKey? key.namespace .sqlInstance i = some other
    · obtain rfl := Option.some.inj (htarget.symm.trans ho)
      rw [hholder]
      rfl
    · rw [if_neg ho, Option.or_none]
  exact ⟨h.unqueued, hsame ▸ h.free, hsame ▸ h.held⟩

/-- What a sweep over the instances under the visited keys has made of the cluster: the
policies are those of their holders, and the other instances are as they were. -/
structure Swept (start : Cluster) (ns : String) (visited : List ObjectKey) (c : Cluster) :
    Prop where
  served : Served start ns visited c
  unvisited : ∀ key, key ∉ visited →
    c.stored? .sqlInstance key = start.stored? .sqlInstance key

theorem Swept.of_none (hunqueued : c.failures = [])
    (hfree : ∀ target : ObjectKey, target.namespace = ns → c.stored? .policy target = none) :
    Swept c ns [] c := by
  have hnone (target : ObjectKey) : c.holder? [] target = none := rfl
  refine ⟨⟨hunqueued, fun target hns _ => hfree target hns, fun target i hi => ?_⟩,
    fun _ _ => rfl⟩
  cases (hnone target).symm.trans hi

/-- Reading an instance leaves the other ones as they were. -/
theorem Swept.stored?_read (h : Swept start ns visited c) (now : Timestamp) {other : ObjectKey}
    (hother : other ∉ visited ++ [key]) :
    (answer now (.get .sqlInstance key) c).2.stored? .sqlInstance other =
      start.stored? .sqlInstance other := by
  obtain ⟨hvisited, hne⟩ := not_or.mp (mt List.mem_append.mpr hother)
  rcases stored?_after_get now .sqlInstance key c .sqlInstance other with hs | ⟨-, rfl, -⟩
  · exact hs.trans (h.unvisited other hvisited)
  · exact absurd List.mem_cons_self hne

/-- The names of instances of one namespace tell them apart. -/
theorem Consistent.anyName_ne {other : ObjectKey} {j : Instance} (h : start.Consistent)
    (hi : start.stored? .sqlInstance key = some i)
    (hj : start.stored? .sqlInstance other = some j) (hns : other.namespace = key.namespace)
    (hne : other ≠ key) : j.metadata.anyName ≠ i.metadata.anyName := by
  intro hname
  have hkey : ObjectKey.ofMetadata i.metadata = key := (h .sqlInstance).filed hi
  have hother : ObjectKey.ofMetadata j.metadata = other := (h .sqlInstance).filed hj
  refine hne (ObjectKey.eq_of_parts hns ?_)
  rw [← hkey, ← hother]
  exact hname

/-- Visiting one more instance: it gets its policy if nobody holds it, and is refused for
good otherwise. -/
theorem Swept.visit (h : Swept start key.namespace visited c) (hstart : start.Consistent)
    (hnamespace : ∀ other ∈ visited, other.namespace = key.namespace) (hkey : key ∉ visited)
    (hi : start.stored? .sqlInstance key = some i) (hready : i.Ready)
    (htarget : Source.targetKey? key.namespace .sqlInstance i = some target)
    (mount : MountSettings) (draw : Draw) :
    let t := (Source.sqlInstance.task mount draw key).run.run (answer draw.now) c
    Action.ofResult t.value = Instance.answerAfter target (start.holder? visited target) ∧
      Swept start key.namespace (visited ++ [key]) t.state := by
  intro t
  let read := (answer draw.now (.get .sqlInstance key) c).2
  have hserved : Served start key.namespace visited read := h.served.get draw.now _ _
  obtain ⟨p, hplan, hptarget, hpmutate⟩ := hready.exists_plan htarget
  obtain ⟨hvalue, hstate⟩ := Source.run_task_sqlInstance mount draw
    h.served.unqueued ((h.unvisited key hkey).trans hi) hplan
  rw [show t.value = _ from hvalue, show t.state = _ from hstate]
  have hends := (p.carryOut_always draw.now).ends_run (answer draw.now) read
  have hreplays := replays_run draw.now (p.carryOut draw.now).run read
  rw [hptarget, hpmutate] at hends
  cases hholder : start.holder? visited target with
  | none =>
    have hfree := hserved.free target (Source.namespace_of_targetKey? htarget) hholder
    obtain ⟨desired, hshape, hdesired, hholds⟩ := i.exists_shapePolicy_new target
    obtain ⟨hcreated, hd, hothers, version, hstored⟩ :=
      hends.of_free hreplays hserved.unqueued hfree hshape hdesired
    rw [hcreated]
    refine ⟨rfl, ?_, fun other hother => ?_⟩
    · exact hserved.admit hi htarget hholder hd (fun other hne => hothers _ _ (.inr hne))
        hstored ((hholds.touch draw.now).stamp version draw.now)
    · exact (hothers .sqlInstance other (.inl nofun)).trans (h.stored?_read draw.now hother)
  | some holder =>
    obtain ⟨policy, hfound, hholds⟩ := hserved.held target holder hholder
    obtain ⟨other, hvisited, hj, -⟩ := exists_of_holder? hholder
    have hne := hstart.anyName_ne hi hj (hnamespace other hvisited)
      fun he => hkey (he ▸ hvisited)
    have hclaim := hholds.claim_of_other hne
    have hrefused : i.shapePolicy i.egressAddresses policy .existing =
        .error (.ofOwnership (.ownedByOther target.render (Kind.name .sqlInstance)
          holder.metadata.anyName)) := by
      rw [Instance.shapePolicy, hclaim]
      rfl
    obtain ⟨hfailed, hd⟩ := hends.of_refused hreplays hserved.unqueued hfound hrefused
    rw [hfailed, hd]
    refine ⟨rfl, (hserved.get draw.now _ _).refuse hi htarget hholder, fun other hother => ?_⟩
    rcases stored?_after_get draw.now .policy target read .sqlInstance other with hs | ⟨hk, -⟩
    · exact hs.trans (h.stored?_read draw.now hother)
    · cases hk

end Cluster

namespace Session

variable {start : Cluster} {ns : String}

/-- Requests for instances, each with what it draws from its surroundings. -/
def visits (sweep : List (Draw × ObjectKey)) : List Turn :=
  sweep.map fun v => .request .sqlInstance v.1 v.2

/-- The key names a stored instance of the namespace that is ready, with this policy. -/
structure Visitable (start : Cluster) (ns : String) (key : ObjectKey) (i : Instance)
    (target : ObjectKey) : Prop where
  resides : key.namespace = ns
  stored : start.stored? .sqlInstance key = some i
  ready : i.Ready
  named : Source.targetKey? ns .sqlInstance i = some target

/-- A sweep leaves the policies to their holders, and answers every instance by what came
before it. -/
theorem swept_visits (mount : MountSettings) (hstart : start.Consistent)
    (sweep : List (Draw × ObjectKey))
    (hsweep : ∀ v ∈ sweep, ∃ i target, Visitable start ns v.2 i target)
    {visited : List ObjectKey} (hvisited : ∀ key ∈ visited, key.namespace = ns)
    (hnodup : (visited ++ sweep.map Prod.snd).Nodup) {s : Session}
    (h : start.Swept ns visited s.cluster) :
    start.Swept ns (visited ++ sweep.map Prod.snd)
      ((visits sweep).foldl (turn mount) s).cluster ∧
    ∀ earlier draw key later i target, sweep = earlier ++ (draw, key) :: later →
      Visitable start ns key i target →
      (replies mount s (visits sweep))[earlier.length]? = some (.sqlInstance,
        Instance.answerAfter target (start.holder? (visited ++ earlier.map Prod.snd) target)) := by
  induction sweep generalizing visited s with
  | nil =>
    rw [List.map_nil, List.append_nil]
    refine ⟨h, fun earlier draw key later i target hsplit => ?_⟩
    cases earlier <;> cases hsplit
  | cons v rest ih =>
    obtain ⟨draw, key⟩ := v
    obtain ⟨⟨i, target, hns, hi, hready, htarget⟩, hrest⟩ := List.forall_mem_cons.mp hsweep
    subst hns
    have hnodup' : ((visited ++ [key]) ++ rest.map Prod.snd).Nodup := by simpa using hnodup
    have hkey : key ∉ visited := fun hmem =>
      (List.nodup_append.mp (List.nodup_append.mp hnodup').1).2.2 key hmem key
        List.mem_cons_self rfl
    obtain ⟨hanswer, hswept⟩ := h.visit hstart hvisited hkey hi hready htarget mount draw
    obtain ⟨⟨hvalue, -⟩, -, hstate⟩ :=
      Source.comesTo_run_reconcile .sqlInstance mount draw key (Cluster.answer draw.now) s.cluster
    rw [← hstate] at hswept
    have hvisited' : ∀ other ∈ visited ++ [key], other.namespace = key.namespace :=
      List.forall_mem_append.mpr ⟨hvisited, List.forall_mem_singleton.mpr rfl⟩
    obtain ⟨hfinal, hanswers⟩ := ih hrest hvisited' hnodup'
      (s := s.turn mount (.request .sqlInstance draw key)) hswept
    rw [List.append_assoc] at hfinal
    refine ⟨hfinal, fun earlier draw' key' later j other hsplit hother => ?_⟩
    cases earlier with
    | nil =>
      obtain ⟨hhead, rfl⟩ := List.cons.inj hsplit
      obtain ⟨rfl, rfl⟩ := Prod.mk.inj hhead
      obtain rfl := Option.some.inj (hi.symm.trans hother.stored)
      obtain rfl := Option.some.inj (htarget.symm.trans hother.named)
      rw [List.map_nil, List.append_nil, ← hanswer, ← hvalue]
      rfl
    | cons first earlier =>
      obtain ⟨rfl, hsplit'⟩ := List.cons.inj hsplit
      have hlater := hanswers earlier draw' key' later j other hsplit' hother
      rw [List.append_assoc] at hlater
      exact hlater

/-- What becomes of an instance in a sweep that starts without policies. -/
theorem outcome_of_visit (mount : MountSettings) {s : Session}
    {sweep earlier later : List (Draw × ObjectKey)} {draw : Draw} {key target : ObjectKey}
    {i : Instance} (hs : s.cluster.Consistent)
    (hunqueued : s.cluster.failures = [])
    (hfree : ∀ target : ObjectKey, target.namespace = ns →
      s.cluster.stored? .policy target = none)
    (hnodup : (sweep.map Prod.snd).Nodup)
    (hsweep : ∀ v ∈ sweep, ∃ i target, Visitable s.cluster ns v.2 i target)
    (hsplit : sweep = earlier ++ (draw, key) :: later)
    (hi : Visitable s.cluster ns key i target) :
    let holder? := s.cluster.holder? (earlier.map Prod.snd) target
    (replies mount s (visits sweep))[earlier.length]? =
        some (.sqlInstance, Instance.answerAfter target holder?) ∧
      ∃ policy, ((visits sweep).foldl (turn mount) s).cluster.stored? .policy target =
        some policy ∧ (holder?.getD i).Holds target policy := by
  intro holder?
  have hswept : s.cluster.Swept ns [] s.cluster :=
    .of_none hunqueued hfree
  obtain ⟨hfinal, hanswers⟩ :=
    swept_visits mount hs sweep hsweep (List.forall_mem_nil _) hnodup hswept
  have hanswer := hanswers earlier draw key later i target hsplit hi
  rw [List.nil_append] at hfinal hanswer
  refine ⟨hanswer, ?_⟩
  have hkeys : sweep.map Prod.snd = earlier.map Prod.snd ++ key :: later.map Prod.snd := by
    rw [hsplit, List.map_append, List.map_cons]
  have hholder := Cluster.holder?_of_mem hi.stored (hi.resides ▸ hi.named)
    (earlier.map Prod.snd) (later.map Prod.snd)
  exact hfinal.served.held target _ (hkeys ▸ hholder)

/-- Instances of one namespace are reconciled once each, in any order, and there was no
policy in the namespace before. An instance before which none was reconciled that has the
same name for its policy is answered without an error and has this policy in the end, as
the only owner and with its own addresses. Any other one is refused for good, and the
policy is that of the first instance with its name. -/
theorem first_instance_has_policy (moves : List (Move Job)) (requeues : Requeues)
    (mount : MountSettings) (ns : String) (sweep : List (Draw × ObjectKey)) :
    let before : Session := ⟨(System.reconciling moves).cluster, requeues⟩
    let after := (visits sweep).foldl (turn mount) before
    before.cluster.failures = [] →
    (∀ target : ObjectKey, target.namespace = ns →
      before.cluster.stored? .policy target = none) →
    (sweep.map Prod.snd).Nodup →
    (∀ v ∈ sweep, v.2.namespace = ns ∧
      ∃ i, before.cluster.stored? .sqlInstance v.2 = some i ∧ i.Ready) →
    ∀ earlier draw key later i target, sweep = earlier ++ (draw, key) :: later →
      before.cluster.stored? .sqlInstance key = some i →
      Source.targetKey? ns .sqlInstance i = some target →
      let holder? := before.cluster.holder? (earlier.map Prod.snd) target
      let answer? := (replies mount before (visits sweep))[earlier.length]?
      (holder? = none → answer? = some (.sqlInstance, .ok .awaitChange) ∧
        ∃ policy, after.cluster.stored? .policy target = some policy ∧ i.Holds target policy) ∧
      ∀ holder, holder? = some holder →
        answer? = some (.sqlInstance, .error (.ofOwnership
          (.ownedByOther target.render "SQLInstance" holder.metadata.anyName))) ∧
        ∃ policy, after.cluster.stored? .policy target = some policy ∧
          holder.Holds target policy := by
  intro before after hunqueued hfree hnodup hready earlier draw key later i target hsplit hi
    htarget holder? answer?
  have hvisitable : ∀ v ∈ sweep, ∃ i target, Visitable before.cluster ns v.2 i target := by
    intro v hv
    obtain ⟨hns, j, hj, hjready⟩ := hready v hv
    obtain ⟨resourceId, hid⟩ := Option.isSome_iff_exists.mp hjready.identified
    exact ⟨j, _, hns, hj, hjready, Option.map_eq_some_iff.mpr ⟨resourceId, hid, rfl⟩⟩
  obtain ⟨hns, j, hj, hjready⟩ := hready (draw, key) (by simp [hsplit])
  obtain rfl := Option.some.inj (hi.symm.trans hj)
  have houtcome := outcome_of_visit mount (System.sound_reconciling moves).consistent
    hunqueued hfree hnodup hvisitable hsplit ⟨hns, hi, hjready, htarget⟩
  constructor
  · intro hnone
    rw [show before.cluster.holder? (earlier.map Prod.snd) target = none from hnone] at houtcome
    exact houtcome
  · intro holder hsome
    rw [show before.cluster.holder? (earlier.map Prod.snd) target = some holder from hsome]
      at houtcome
    exact houtcome

end Session

namespace Sample

/-- An instance with a resource identifier and one address. -/
def named (name resourceId address : String) : Instance where
  metadata := { name := some name, «namespace» := some "ns" }
  spec := { resourceId := some resourceId }
  status := some { addresses := [{ type := some "PRIMARY", address := some address }] }

/-- Two instances whose policies have one name, and another instance. -/
def colliding : List (Move Job) :=
  [.intervene (.insert .sqlInstance (named "a" "b-c" "10.0.0.1") time),
    .intervene (.insert .sqlInstance (named "a-b" "c" "10.0.0.2") time),
    .intervene (.insert .sqlInstance (named "db" "main" "10.0.0.3") time)]

/-- All these instances, one after the other. -/
def sweeping : List (Draw × ObjectKey) :=
  ["a", "a-b", "db"].map fun name => (openPolicy.draw, ⟨"ns", name⟩)

end Sample

namespace Session

open Sample

/-- Of two instances whose policies have one name the first gets it and the second is
refused. -/
theorem first_instance_has_policy_of_two :
    let before : Session := ⟨(System.reconciling colliding).cluster, {}⟩
    let after := (visits sweeping).foldl (turn {}) before
    let answers := replies {} before (visits sweeping)
    answers[0]? = some (.sqlInstance, .ok .awaitChange) ∧
      answers[1]? = some (.sqlInstance, .error (.ofOwnership
        (.ownedByOther "ns/sql-a-b-c" "SQLInstance" "a"))) ∧
      ∃ i policy, before.cluster.stored? .sqlInstance ⟨"ns", "a"⟩ = some i ∧
        after.cluster.stored? .policy ⟨"ns", "sql-a-b-c"⟩ = some policy ∧
        i.Holds ⟨"ns", "sql-a-b-c"⟩ policy := by
  intro before after answers
  have hready : ∀ v ∈ sweeping, v.2.namespace = "ns" ∧
      (before.cluster.stored? .sqlInstance v.2).any (fun i => decide i.Ready) = true := by
    decide +kernel
  have hsweep := first_instance_has_policy colliding {} {} "ns" sweeping (by decide +kernel)
    (fun _ _ => rfl) (by decide +kernel) (fun v hv => by
      obtain ⟨hns, hany⟩ := hready v hv
      obtain ⟨i, hi, hready⟩ := (Option.any_eq_true _ _).mp hany
      exact ⟨hns, i, hi, of_decide_eq_true hready⟩)
  have hfirst : (before.cluster.stored? .sqlInstance ⟨"ns", "a"⟩).map
      (fun i => (Source.targetKey? "ns" .sqlInstance i, i.metadata.anyName)) =
        some (some ⟨"ns", "sql-a-b-c"⟩, "a") := by
    decide +kernel
  have hsecond : (before.cluster.stored? .sqlInstance ⟨"ns", "a-b"⟩).map
      (Source.targetKey? "ns" .sqlInstance) = some (some ⟨"ns", "sql-a-b-c"⟩) := by
    decide +kernel
  obtain ⟨i, hi, htarget⟩ := Option.map_eq_some_iff.mp hfirst
  obtain ⟨htarget, hname⟩ := Prod.mk.inj htarget
  obtain ⟨j, hj, htarget'⟩ := Option.map_eq_some_iff.mp hsecond
  obtain ⟨hgets, -⟩ := hsweep [] _ _ _ i _ rfl hi htarget
  obtain ⟨hanswer, policy, hstored, hholds⟩ := hgets rfl
  obtain ⟨-, hrefused⟩ := hsweep [_] _ _ _ j _ rfl hj htarget'
  have hholder : before.cluster.holder? [⟨"ns", "a"⟩] ⟨"ns", "sql-a-b-c"⟩ = some i :=
    Cluster.holder?_of_mem hi htarget [] []
  obtain ⟨hanswer', -⟩ := hrefused i hholder
  rw [hname] at hanswer'
  exact ⟨hanswer, hanswer', i, policy, hi, hstored, hholds⟩

/-- Instances with different names may have one name for their policies: reconciled from
no policies, the second of them is refused. -/
theorem second_instance_is_locked_out :
    let before : Session := ⟨(System.reconciling colliding).cluster, {}⟩
    let after := (visits sweeping).foldl (turn {}) before
    before.cluster.failures = [] ∧ (before.cluster.store .policy).isEmpty = true ∧
      (sweeping.map Prod.snd).Nodup ∧
      (∀ v ∈ sweeping, v.2.namespace = "ns" ∧
        (before.cluster.stored? .sqlInstance v.2).any (fun i => decide i.Ready) = true) ∧
      (replies {} before (visits sweeping)).map Prod.snd =
        [.ok .awaitChange,
          .error (.ofOwnership (.ownedByOther "ns/sql-a-b-c" "SQLInstance" "a")),
          .ok .awaitChange] ∧
      (after.cluster.store .policy).size = 2 := by
  decide +kernel

end Session

end SqlOperator
