import SqlOperator.Proofs.Net.AddressLiterals
import SqlOperator.Proofs.Reconcile.Alone
import SqlOperator.Proofs.Reconcile.Egress
import SqlOperator.Proofs.Reconcile.Idempotent
import SqlOperator.Proofs.Text.ByteOrder

/-!
# The order of egress rules

The policy of an instance lists the addresses that pods are let through to, each as often as
the instance does, in the order of their bytes. The order in which the instance lists them does
not matter, and neither do its other entries: after a status that has been rearranged, the
policy stays as it is.

## Implementation notes

It is the addresses that are ordered, not the blocks made of them. A block has a slash behind
its address, which is greater than a dot: `::1` comes before `::1.2.3.4`, but `::1/32` after
`::1.2.3.4/32`.
-/

namespace SqlOperator

open Text

/-- The entry has no address that pods are let through to. -/
def InstanceAddress.Irrelevant (entry : InstanceAddress) : Prop :=
  entry.address = none ∨ (entry.type ≠ some "PRIMARY" ∧ entry.type ≠ some "PRIVATE")

/-- What may become of a list of entries as long as the addresses that pods are let through to
are the same. -/
inductive Rearranged : List InstanceAddress → List InstanceAddress → Prop where
  | perm {xs ys : List InstanceAddress} : xs.Perm ys → Rearranged xs ys
  | insert {entry : InstanceAddress} (before after : List InstanceAddress) : entry.Irrelevant →
      Rearranged (before ++ after) (before ++ entry :: after)
  | remove {entry : InstanceAddress} (before after : List InstanceAddress) : entry.Irrelevant →
      Rearranged (before ++ entry :: after) (before ++ after)
  | trans {xs ys zs : List InstanceAddress} : Rearranged xs ys → Rearranged ys zs →
      Rearranged xs zs

/-- The blocks of a policy, in the order of its rules. -/
def PolicySpec.cidrs (spec : PolicySpec) : List String :=
  (spec.egress.getD []).flatMap fun rule =>
    (rule.destinations.getD []).filterMap fun peer => peer.ipBlock.map (·.cidr)

/-- The policy has one rule with one block for each of the addresses. These are in the order of
their bytes, and each is there as often as an entry lists it that pods are let through to. If
all are of IPv4 then the blocks are in order, too. -/
structure PolicySpec.ListsInOrder (spec : PolicySpec) (entries : List InstanceAddress)
    (addresses : List String) : Prop where
  rules : spec.egress = some (addresses.map fun address =>
    { destinations := some [{ ipBlock := some { cidr := address ++ "/32" } }] })
  ascending : addresses.Pairwise fun a b => Bytes.ofText a ≤ Bytes.ofText b
  ascending_cidrs : (∀ address ∈ addresses, (Ipv4Address.parse? address.toList).isSome) →
    spec.cidrs.Pairwise fun a b => Bytes.ofText a ≤ Bytes.ofText b
  lossless : ∀ address, addresses.count address = entries.countP fun entry =>
    (entry.type = some "PRIMARY" ∨ entry.type = some "PRIVATE") ∧ entry.address = some address

namespace Instance

/-- The instance, with another status. -/
def withStatus (i : Instance) (status : InstanceStatus) : Instance :=
  { i with status := some status }

theorem key_withStatus (i : Instance) (status : InstanceStatus) :
    Kind.key .sqlInstance (i.withStatus status) = Kind.key .sqlInstance i := rfl

variable {i j : Instance} {xs ys : List InstanceAddress}

theorem reachable?_of_irrelevant {entry : InstanceAddress} (h : entry.Irrelevant) :
    reachable? entry = none := by
  refine Option.eq_none_iff_forall_ne_some.mpr fun text heq => ?_
  obtain ⟨htype, haddress⟩ := reachable?_eq_some_iff.mp heq
  rcases h with hnone | ⟨hprimary, hprivate⟩
  · rw [hnone] at haddress
    cases haddress
  · exact htype.elim hprimary hprivate

/-- Entries that are not reachable may come and go. -/
theorem filterMap_perm_of_rearranged (h : Rearranged xs ys) :
    (xs.filterMap reachable?).Perm (ys.filterMap reachable?) := by
  induction h with
  | perm h => exact h.filterMap reachable?
  | insert before after h => simp [List.filterMap_append, reachable?_of_irrelevant h]
  | remove before after h => simp [List.filterMap_append, reachable?_of_irrelevant h]
  | trans _ _ ih ih' => exact ih.trans ih'

theorem pairwise_egressAddresses (i : Instance) : i.egressAddresses.Pairwise (· ≤ ·) := by
  have hsorted : i.egressAddresses.Pairwise fun a b => (compare a b).isLE = true := by
    refine List.pairwise_mergeSort (fun a b c hab hbc => ?_) (fun a b => ?_) _
    · exact isLE_compare_iff.mpr ((isLE_compare_iff.mp hab).trans (isLE_compare_iff.mp hbc))
    · simpa [isLE_compare_iff] using le_total a b
  exact hsorted.imp isLE_compare_iff.mp

/-- The order of the entries does not matter, nor do entries without such an address. -/
theorem egressAddresses_of_rearranged (h : Rearranged ((i.status.map (·.addresses)).getD [])
    ((j.status.map (·.addresses)).getD [])) : j.egressAddresses = i.egressAddresses := by
  refine List.Perm.eq_of_pairwise (fun a b _ _ => le_antisymm) (pairwise_egressAddresses j)
    (pairwise_egressAddresses i) ?_
  exact (List.mergeSort_perm ..).trans
    ((filterMap_perm_of_rearranged h).symm.trans (List.mergeSort_perm ..).symm)

/-- An instance that is rearranged, and stored before and after that, has the same plan. -/
theorem exists_plan_repeats_of_rearranged {k : Instance} {status : InstanceStatus} {ns : String}
    {p : Plan .policy} (hj : Kind.SameContent .sqlInstance i j)
    (hstatus : Rearranged ((i.status.map (·.addresses)).getD []) status.addresses)
    (hk : Kind.SameContent .sqlInstance (j.withStatus status) k) (hp : i.plan ns = .ok p) :
    ∃ q, k.plan ns = .ok q ∧ p.Repeats q := by
  obtain ⟨version, time, uid, rfl⟩ := hj
  obtain ⟨version', time', uid', rfl⟩ := hk
  exact exists_plan_repeats_of_eq (i := i) rfl (egressAddresses_of_rearranged hstatus)
    ⟨version', time', uid', rfl⟩ hp

/-- Every address is there as often as the instance lists it. -/
theorem count_egressAddresses (i : Instance) (address : String) :
    i.egressAddresses.count address =
      ((i.status.map (·.addresses)).getD []).countP fun entry =>
        (entry.type = some "PRIMARY" ∨ entry.type = some "PRIVATE") ∧
          entry.address = some address := by
  rw [egressAddresses, (List.mergeSort_perm ..).count_eq, List.count_filterMap]
  refine List.countP_congr fun entry _ => ?_
  simp only [beq_iff_eq, reachable?_eq_some_iff, decide_eq_true_eq]

theorem plan_withStatus {status : InstanceStatus} {ns : String}
    (h : Rearranged ((i.status.map (·.addresses)).getD []) status.addresses) :
    (i.withStatus status).plan ns = i.plan ns := by
  have haddresses : (i.withStatus status).egressAddresses = i.egressAddresses :=
    egressAddresses_of_rearranged h
  unfold plan
  rw [haddresses]
  rfl

/-- Blocks of IPv4 are in order, too. -/
theorem pairwise_blocks {addresses : List String} (hsorted : addresses.Pairwise (· ≤ ·))
    (h : ∀ address ∈ addresses, (Ipv4Address.parse? address.toList).isSome) :
    (addresses.map (· ++ "/32")).Pairwise (· ≤ ·) := by
  refine List.pairwise_map.mpr (hsorted.imp_of_mem fun {a b} ha hb hle => ?_)
  obtain ⟨x, hx⟩ := Option.isSome_iff_exists.mp (h a ha)
  obtain ⟨y, hy⟩ := Option.isSome_iff_exists.mp (h b hb)
  rw [String.le_iff_toList_le, String.toList_append, String.toList_append]
  refine append_mark_le (String.le_iff_toList_le.mp hle) fun c rest heq => ?_
  rw [heq] at hy
  have hdigit := Ipv4Address.isDigit_of_parse?_append hx hy
  simp only [Char.isDigit, Bool.and_eq_true, decide_eq_true_eq] at hdigit
  exact lt_of_lt_of_le (by decide) hdigit.1

/-- Every address has a rule of its own, in order. -/
theorem cidrs_policySpec (app : String) (addresses : List String) :
    (policySpec app addresses).cidrs = addresses.map (· ++ "/32") := by
  simp only [PolicySpec.cidrs, policySpec, egressRule, Option.getD_some, List.flatMap_map,
    List.filterMap_cons, Option.map_some, List.filterMap_nil]
  exact List.map_eq_flatMap.symm

theorem listsInOrder_policySpec (i : Instance) (app : String) :
    (policySpec app i.egressAddresses).ListsInOrder
      ((i.status.map (·.addresses)).getD []) i.egressAddresses where
  rules := rfl
  ascending := (pairwise_egressAddresses i).imp ofText_le_ofText_iff.mpr
  ascending_cidrs h := by
    rw [cidrs_policySpec]
    exact (pairwise_blocks (pairwise_egressAddresses i) h).imp ofText_le_ofText_iff.mpr
  lossless := count_egressAddresses i

end Instance

namespace Cluster

variable {c : Cluster} {kind other : Kind}

theorem Calm.insert (h : c.Calm kind) (object : other.Object) (now : Timestamp) :
    ((Intervention.insert other object now).apply c).Calm kind := by
  refine h.of_frame rfl ?_
  by_cases hkind : kind = other
  · subst hkind
    rw [Intervention.apply, store_setStore_self]
    rfl
  · rw [Intervention.apply, store_setStore_of_ne _ _ hkind]

theorem stored?_insert_self (c : Cluster) (kind : Kind) (object : kind.Object)
    (now : Timestamp) {key : ObjectKey} (h : kind.key object = key) :
    ((Intervention.insert kind object now).apply c).stored? kind key =
      some (kind.stamp object ((c.store kind).versions + 1) now) := by
  rw [Intervention.apply, stored?_setStore_self, MemoryStore.insert, MemoryStore.get?_put,
    if_pos h.symm]

theorem stored?_insert_of_ne (c : Cluster) (kind : Kind) (object : kind.Object)
    (now : Timestamp) (h : other ≠ kind) (key : ObjectKey) :
    ((Intervention.insert kind object now).apply c).stored? other key = c.stored? other key :=
  stored?_setStore_of_ne c _ h key

end Cluster

namespace Source

variable {mount : MountSettings} {draw : Draw} {key : ObjectKey}

/-- A reconcile of an instance rests on a policy that its plan leaves as it is. -/
theorem rests_task_of_repeats {d : Cluster} {i : Instance} {p q : Plan .policy}
    {policy : NetworkPolicy} (hsource : d.Calm .sqlInstance)
    (hi : d.stored? .sqlInstance key = some i) (hq : i.plan key.namespace = .ok q)
    (hrepeats : p.Repeats q) (htarget : d.Calm .policy)
    (hpolicy : d.stored? .policy p.target = some policy) (hfixes : p.mutate.Fixes policy)
    (later : Draw) (now : Timestamp) :
    Task.Rests (Cluster.answer now) d (Source.task .sqlInstance mount later key) .unchanged := by
  have hask := hsource.rests_ask now key
  rw [hi] at hask
  have hprepare : Task.Rests (Cluster.answer now) d
      (Source.prepare .sqlInstance mount later.seed key) q :=
    hask.bind ((Task.rests_require rfl _).bind (Task.rests_lift hq))
  rw [task_eq]
  exact hprepare.bind (hrepeats.rests_carryOut htarget hpolicy hfixes later.now now)

/-- Where a reconcile of an instance has succeeded, every later one rests, although others have
rearranged the status of the instance. -/
theorem Ends.exists_rests_of_rearranged {h : List Exchange} {op : Operation}
    (he : Source.Ends .sqlInstance mount draw key h (.ok op)) {c d : Cluster} {clock : Timestamp}
    (hc : c.Consistent) (hr : c.Replays clock h d) :
    ∃ i j : Instance, c.stored? .sqlInstance key = some i ∧ d.stored? .sqlInstance key = some j ∧
      j.spec = i.spec ∧ j.status = i.status ∧
      ∀ status : InstanceStatus,
        Rearranged ((i.status.map (·.addresses)).getD []) status.addresses →
        ∀ (time : Timestamp) (later : Draw) (now : Timestamp),
          Task.Rests (Cluster.answer now)
            ((Intervention.insert .sqlInstance (j.withStatus status) time).apply d)
            (Source.task .sqlInstance mount later key) .unchanged := by
  cases he with
  | upserted hp hu =>
    obtain ⟨x, -, -, hshaping⟩ := hp.shaping
    obtain ⟨content, hshapes⟩ := hshaping.exists_shapes
    obtain ⟨i, rfl, hplan⟩ := hp
    have hcalls := hu.calls_ok
    have hshows := hr.shows (fun e he => (hcalls e he).2) fun e he => (hcalls e he).1 ▸ nofun
    obtain ⟨j, hj, hsame⟩ := hshows.stored
    obtain ⟨m, hread, hupsert⟩ := Cluster.replays_append.mp hr
    obtain ⟨hcalm, policy, hpolicy, hfixes⟩ := hu.settles (hread.consistent hc) hupsert hshapes
    obtain ⟨hspec, hstatus⟩ : j.spec = i.spec ∧ j.status = i.status := by
      obtain ⟨version, created, uid, rfl⟩ := hsame
      exact ⟨rfl, rfl⟩
    refine ⟨i, j, (Cluster.answer_get_ok hr.1).1, hj, hspec, hstatus,
      fun status hrearranged time later now => ?_⟩
    -- The changed instance is found under the key, for a status is no part of that.
    have hkey := (Instance.key_withStatus j status).trans
      ((hr.consistent hc .sqlInstance).filed hj)
    have hfound := d.stored?_insert_self .sqlInstance (j.withStatus status) time hkey
    have hne : Kind.policy ≠ Kind.sqlInstance := nofun
    have hkept := (d.stored?_insert_of_ne .sqlInstance (j.withStatus status) time hne _).trans
      hpolicy
    obtain ⟨q, hq, hrepeats⟩ := Instance.exists_plan_repeats_of_rearranged hsame hrearranged
      (Kind.sameContent_stamp .sqlInstance _ _ _) hplan
    exact rests_task_of_repeats (hshows.calm.insert _ time) hfound hq hrepeats
      (hcalm.insert _ time) hkept hfixes later now

end Source

namespace Session

/-- A reconcile whose work rests finds unchanged, writes nothing and leaves all as it is. -/
theorem quiet_of_rests {s : Session} {mount : MountSettings} {draw : Draw} {source : Source}
    {key : ObjectKey}
    (h : Task.Rests (Cluster.answer draw.now) s.cluster (source.task mount draw key) .unchanged) :
    let r := s.reconcile mount draw source key
    r.log.getLast? = some (.reconciled .unchanged source.target.name) ∧
      r.value = .ok .awaitChange ∧ (∀ e ∈ r.exchanges, e.call.isWrite = false) ∧
      r.state = s := by
  intro r
  obtain ⟨steps, hh, hr⟩ := reconcile_of_rests h
  change r = _ at hr
  have hharmless : ∀ step ∈ r.history, step.Harmless := by
    rw [hr]
    exact List.forall_mem_append.mpr ⟨hh, List.forall_mem_singleton.mpr nofun⟩
  refine ⟨?_, ?_, fun e he => Run.isWrite_eq_false_of_harmless hharmless he, ?_⟩
  · rw [hr]
    simp [Run.log]
  · rw [hr]
  · rw [hr]

/-- The rules of an instance do not depend on how its status is arranged. Whenever a reconcile
of an instance has succeeded, its policy has one rule for each address that pods are let
through to, as often as the instance lists it and in the order of the addresses; and after any
rearrangement of the status, the same reconcile once more finds unchanged and writes nothing. -/
theorem policy_lists_in_order (moves : List (Move Job)) (requeues : Requeues)
    (mount : MountSettings) (first : Draw) (key : ObjectKey) (op : Operation) :
    let before : Session := ⟨(System.reconciling moves).cluster, requeues⟩
    let once := before.reconcile mount first .sqlInstance key
    (∀ (i : Instance) (status : InstanceStatus) (ns : String),
      Rearranged ((i.status.map (·.addresses)).getD []) status.addresses →
      (i.withStatus status).plan ns = i.plan ns) ∧
    (once.log.getLast? = some (.reconciled op "NetworkPolicy") →
      ∃ (i j : Instance) (target : ObjectKey) (policy : NetworkPolicy) (spec : PolicySpec)
          (addresses : List String),
        before.cluster.stored? .sqlInstance key = some i ∧
        Source.targetKey? key.namespace .sqlInstance i = some target ∧
        once.state.cluster.stored? .policy target = some policy ∧ policy.spec = some spec ∧
        spec.ListsInOrder ((i.status.map (·.addresses)).getD []) addresses ∧
        once.state.cluster.stored? .sqlInstance key = some j ∧ j.spec = i.spec ∧
        j.status = i.status ∧
        ∀ status : InstanceStatus,
          Rearranged ((i.status.map (·.addresses)).getD []) status.addresses →
          ∀ (time : Timestamp) (second : Draw),
            let changed : Session := { once.state with
              cluster := (Intervention.insert .sqlInstance (j.withStatus status) time).apply
                once.state.cluster }
            let again := changed.reconcile mount second .sqlInstance key
            again.log.getLast? = some (.reconciled .unchanged "NetworkPolicy") ∧
              again.value = .ok .awaitChange ∧
              (∀ e ∈ again.exchanges, e.call.isWrite = false) ∧ again.state = changed) := by
  intro before once
  refine ⟨fun i status ns => Instance.plan_withStatus, fun h => ?_⟩
  have hsound := System.sound_reconciling moves
  obtain ⟨history, hends, hreplays⟩ := ends_of_reported h
  obtain ⟨i, target, policy, hi, htarget, hpolicy, hproject, -⟩ :=
    hends.projects hsound.consistent (System.identified_after Job.program moves) hreplays
  obtain ⟨i', j, hi', hj, hspec, hstatus, hrests⟩ :=
    hends.exists_rests_of_rearranged hsound.consistent hreplays
  obtain rfl := Option.some.inj (hi.symm.trans hi')
  have hrules : some (Instance.policySpec i.app i.egressAddresses) = policy.spec :=
    Payload.rules.inj (Option.some.inj hproject)
  refine ⟨i, j, target, policy, _, i.egressAddresses, hi, htarget, hpolicy, hrules.symm,
    Instance.listsInOrder_policySpec i _, hj, hspec, hstatus,
    fun status hrearranged time second => quiet_of_rests (hrests status hrearranged time second _)⟩

end Session

namespace Sample

/-- An instance that has an address of IPv6 in both notations, the longer one first. -/
def mixed : Instance where
  metadata := { name := some "db", «namespace» := some "ns" }
  spec := { resourceId := some "main" }
  status := some { addresses := [{ type := some "PRIVATE", address := some "::1.2.3.4" },
    { type := some "PRIMARY", address := some "::1" }] }

/-- The instance is there, and nothing else. -/
def mixedOnly : List (Move Job) := [.intervene (.insert .sqlInstance mixed time)]

/-- The status of the instance with its addresses the other way round and one more entry. -/
def mixedAgain : InstanceStatus where
  addresses := [{ type := some "OUTGOING", address := some "10.0.0.1" },
    { type := some "PRIMARY", address := some "::1" },
    { type := some "PRIVATE", address := some "::1.2.3.4" }]

theorem rearranged_mixed :
    Rearranged ((mixed.status.map (·.addresses)).getD []) mixedAgain.addresses :=
  .trans (.perm (.swap ..)) (.insert [] _ (.inr (by decide)))

theorem egressAddresses_mixed {i : Instance} (h : i.status = mixed.status) :
    i.egressAddresses = ["::1", "::1.2.3.4"] := by
  refine List.Perm.eq_of_pairwise (fun a b _ _ => le_antisymm)
    (Instance.pairwise_egressAddresses i) (by decide) ?_
  rw [Instance.egressAddresses, h]
  exact (List.mergeSort_perm ..).trans (.swap ..)

end Sample

namespace Session

open Sample

/-- The policy of the instance is created. -/
theorem reconciled_mixed :
    ((⟨(System.reconciling mixedOnly).cluster, {}⟩ : Session).reconcile {} openModern.draw
      .sqlInstance openModern.key).log.getLast? = some (.reconciled .created "NetworkPolicy") := by
  have hquiet : (System.reconciling mixedOnly).cluster.Quiet :=
    ⟨by decide +kernel, by intro kind; cases kind <;> rfl⟩
  have hstored : (System.reconciling mixedOnly).cluster.stored? .sqlInstance openModern.key =
      some (Kind.stamp .sqlInstance mixed 1 time) := by
    decide +kernel
  have haddresses : Instance.egressAddresses (Kind.stamp .sqlInstance mixed 1 time) =
      ["::1", "::1.2.3.4"] := egressAddresses_mixed rfl
  have hplan : Source.planIn .sqlInstance {} openModern.key
      (System.reconciling mixedOnly).cluster openModern.draw.seed =
      .ok ⟨[.reconcilingInstance modernPolicyKey ["::1", "::1.2.3.4"]], modernPolicyKey,
        Instance.shapePolicy (Kind.stamp .sqlInstance mixed 1 time) ["::1", "::1.2.3.4"]⟩ :=
    required_bind_eq_ok.mpr ⟨_, hstored, Instance.plan_eq_ok.mpr
      ⟨"main", rfl, by rw [haddresses]; rfl, by rw [haddresses]; rfl⟩⟩
  have hresult : Source.resultIn .sqlInstance {} openModern.draw openModern.key
      (System.reconciling mixedOnly).cluster = .ok .created := by
    rw [Source.resultIn, hplan]
    decide +kernel
  obtain ⟨hcomes, -⟩ := Source.alone_reconcile .sqlInstance {} openModern.draw openModern.key
    hquiet (System.sound_reconciling mixedOnly).consistent
  rw [hresult] at hcomes
  exact hcomes.reported

/-- Two rearranged addresses leave the policy as it is. -/
theorem policy_lists_in_order_of_mixed :
    let before : Session := ⟨(System.reconciling mixedOnly).cluster, {}⟩
    let once := before.reconcile {} openModern.draw .sqlInstance openModern.key
    once.log.getLast? = some (.reconciled .created "NetworkPolicy") ∧
      ∃ j : Instance, once.state.cluster.stored? .sqlInstance openModern.key = some j ∧
        j.status = mixed.status ∧
        let changed : Session := { once.state with
          cluster := (Intervention.insert .sqlInstance (j.withStatus mixedAgain) time).apply
            once.state.cluster }
        (changed.reconcile {} laterDraw .sqlInstance openModern.key).state = changed := by
  obtain ⟨-, hlists⟩ := policy_lists_in_order mixedOnly {} {} openModern.draw openModern.key
    .created
  obtain ⟨i, j, -, -, -, -, hi, -, -, -, -, hj, -, hstatus, hagain⟩ := hlists reconciled_mixed
  have hmixed : ((System.reconciling mixedOnly).cluster.stored? .sqlInstance
      openModern.key).map (fun i : Instance => i.status) = some mixed.status := by
    decide +kernel
  obtain ⟨i', hi', hsame⟩ := Option.map_eq_some_iff.mp hmixed
  obtain rfl := Option.some.inj (hi.symm.trans hi')
  have hrearranged := rearranged_mixed
  rw [← hsame] at hrearranged
  obtain ⟨-, -, -, hstate⟩ := hagain mixedAgain hrearranged time laterDraw
  exact ⟨reconciled_mixed, j, hj, hstatus.trans hsame, hstate⟩

/-- The blocks of the policy are not in order. -/
theorem policy_of_mixed_descends :
    let before : Session := ⟨(System.reconciling mixedOnly).cluster, {}⟩
    let once := before.reconcile {} openModern.draw .sqlInstance openModern.key
    once.log.getLast? = some (.reconciled .created "NetworkPolicy") ∧
      ∃ (policy : NetworkPolicy) (spec : PolicySpec),
        once.state.cluster.stored? .policy modernPolicyKey = some policy ∧
        policy.spec = some spec ∧ spec.cidrs = ["::1/32", "::1.2.3.4/32"] ∧
        ¬spec.cidrs.Pairwise fun a b => Bytes.ofText a ≤ Bytes.ofText b := by
  obtain ⟨history, hends, hreplays⟩ := ends_of_reported reconciled_mixed
  obtain ⟨i, target, policy, hi, htarget, hpolicy, hproject, -⟩ :=
    hends.projects (System.sound_reconciling mixedOnly).consistent
      (System.identified_after Job.program mixedOnly) hreplays
  have hsource : ((System.reconciling mixedOnly).cluster.stored? .sqlInstance
      openModern.key).map (fun i : Instance =>
        (Source.targetKey? openModern.key.namespace .sqlInstance i, i.status)) =
      some (some modernPolicyKey, mixed.status) := by
    decide +kernel
  obtain ⟨i', hi', hboth⟩ := Option.map_eq_some_iff.mp hsource
  obtain rfl := Option.some.inj (hi.symm.trans hi')
  obtain ⟨htarget', hstatus⟩ := Prod.mk.inj hboth
  obtain rfl := Option.some.inj (htarget.symm.trans htarget')
  have hrules : some (Instance.policySpec i.app i.egressAddresses) = policy.spec :=
    Payload.rules.inj (Option.some.inj hproject)
  have hcidrs : (Instance.policySpec i.app i.egressAddresses).cidrs =
      ["::1/32", "::1.2.3.4/32"] := by
    rw [Instance.cidrs_policySpec, egressAddresses_mixed hstatus]
    decide
  refine ⟨reconciled_mixed, policy, _, hpolicy, hrules.symm, hcidrs, ?_⟩
  rw [hcidrs]
  decide

end Session

end SqlOperator
