import SqlOperator.Proofs.Net.AddressBlocks
import SqlOperator.Proofs.Reconcile.Projection

/-!
# What the policy of an instance opens

The policy of an instance is meant to open egress to the addresses of the instance. It has a
block of 32 bits for each of them. That is one address of IPv4, but 2^96 addresses of IPv6:
the policy opens everything that starts like an address of the instance.
-/

namespace SqlOperator

/-- The address is in the block, and in none of those that are taken out of it. -/
def IpBlock.Contains (b : IpBlock) (x : IpAddress) : Prop :=
  (∃ block, AddressBlock.parse? b.cidr.toList = some block ∧ block.Contains x) ∧
    ∀ cidr ∈ b.excluded.getD [], ∀ block, AddressBlock.parse? cidr.toList = some block →
      ¬block.Contains x

/-- The address is in a block of some egress rule. -/
def PolicySpec.Opens (spec : PolicySpec) (x : IpAddress) : Prop :=
  ∃ rule ∈ spec.egress.getD [], ∃ peer ∈ rule.destinations.getD [],
    ∃ block, peer.ipBlock = some block ∧ block.Contains x

namespace Instance

variable {i : Instance} {x y : IpAddress} {text : String} {addresses : List String}

/-- An address of the instance, as a literal of either family, that pods are let through to. -/
def Retains (i : Instance) (x : IpAddress) : Prop :=
  ∃ entry ∈ (i.status.map (·.addresses)).getD [],
    (entry.type = some "PRIMARY" ∨ entry.type = some "PRIVATE") ∧
      ∃ text, entry.address = some text ∧ IpAddress.parse? text.toList = some x

theorem reachable?_eq_some_iff {entry : InstanceAddress} :
    reachable? entry = some text ↔
      (entry.type = some "PRIMARY" ∨ entry.type = some "PRIVATE") ∧
        entry.address = some text := by
  have htype : (entry.type.any fun type => reachableTypes.contains type) = true ↔
      entry.type = some "PRIMARY" ∨ entry.type = some "PRIVATE" := by
    cases entry.type <;> simp [reachableTypes]
  unfold reachable?
  split
  · rename_i h
    simp only [htype.mp h, true_and]
  · rename_i h
    simp only [mt htype.mpr h, false_and, reduceCtorEq]

theorem retains_iff :
    i.Retains x ↔ ∃ text ∈ i.egressAddresses, IpAddress.parse? text.toList = some x := by
  simp only [egressAddresses, List.mem_mergeSort, List.mem_filterMap, reachable?_eq_some_iff]
  constructor
  · rintro ⟨entry, hentry, htype, text, haddress, hparse⟩
    exact ⟨text, ⟨entry, hentry, htype, haddress⟩, hparse⟩
  · rintro ⟨text, ⟨entry, hentry, htype, haddress⟩, hparse⟩
    exact ⟨entry, hentry, htype, text, haddress, hparse⟩

/-- The block of an address has what starts like the address. -/
theorem contains_egressRule :
    IpBlock.Contains { cidr := text ++ "/32" } x ↔
      ∃ y, IpAddress.parse? text.toList = some y ∧ y.SameStart x := by
  simp only [IpBlock.Contains, String.toList_append, IpAddress.parse?_append_slash,
    Option.map_eq_some_iff, Option.getD_none, List.not_mem_nil, false_implies, implies_true,
    and_true]
  constructor
  · rintro ⟨-, ⟨y, hparse, rfl⟩, hcontains⟩
    exact ⟨y, hparse, IpAddress.contains_block.mp hcontains⟩
  · rintro ⟨y, hparse, hstart⟩
    exact ⟨_, ⟨y, hparse, rfl⟩, IpAddress.contains_block.mpr hstart⟩

/-- A policy opens the addresses that start like one of its own. -/
theorem opens_policySpec {app : String} :
    (policySpec app addresses).Opens x ↔
      ∃ text ∈ addresses, ∃ y, IpAddress.parse? text.toList = some y ∧ y.SameStart x := by
  simp only [← contains_egressRule]
  constructor
  · rintro ⟨rule, hrule, peer, hpeer, block, hblock, hcontains⟩
    obtain ⟨text, htext, rfl⟩ := List.mem_map.mp hrule
    obtain rfl := List.mem_singleton.mp hpeer
    exact ⟨text, htext, Option.some.inj hblock ▸ hcontains⟩
  · rintro ⟨text, htext, hcontains⟩
    exact ⟨egressRule text, List.mem_map.mpr ⟨text, htext, rfl⟩, _, List.mem_singleton.mpr rfl,
      _, rfl, hcontains⟩

/-- The policy of an instance opens what starts like one of its addresses. -/
theorem opens_iff {app : String} :
    (policySpec app i.egressAddresses).Opens x ↔ ∃ y, i.Retains y ∧ y.SameStart x := by
  simp only [opens_policySpec, retains_iff]
  constructor
  · rintro ⟨text, htext, y, hparse, hstart⟩
    exact ⟨y, ⟨text, htext, hparse⟩, hstart⟩
  · rintro ⟨y, ⟨text, htext, hparse⟩, hstart⟩
    exact ⟨text, htext, y, hparse, hstart⟩

/-- An IPv4 address has 32 bits, so it is opened alone. -/
theorem opens_v4_iff {app : String} {x : Ipv4Address} :
    (policySpec app i.egressAddresses).Opens (.v4 x) ↔ i.Retains (.v4 x) := by
  refine ⟨fun h => ?_, fun h => opens_iff.mpr ⟨_, h, .refl _⟩⟩
  obtain ⟨y, hy, hstart⟩ := opens_iff.mp h
  cases y with
  | v4 y => exact (show y = x from hstart) ▸ hy
  | v6 y => cases hstart

/-- Two groups of an IPv6 address are 32 bits, so all addresses that share them are opened. -/
theorem opens_v6_iff {app : String} {x : Ipv6Address} :
    (policySpec app i.egressAddresses).Opens (.v6 x) ↔
      ∃ y : Ipv6Address, i.Retains (.v6 y) ∧ y.groups.take 2 = x.groups.take 2 := by
  refine ⟨fun h => ?_, fun ⟨y, hy, hstart⟩ => opens_iff.mpr ⟨.v6 y, hy, hstart⟩⟩
  obtain ⟨y, hy, hstart⟩ := opens_iff.mp h
  cases y with
  | v4 y => cases hstart
  | v6 y => exact ⟨y, hy, hstart⟩

end Instance

namespace Session

open Instance

/-- Whenever a reconcile of an instance has succeeded, its policy is for the pods of the
application of the instance alone, and opens what starts like an address of the instance. So it
opens all of these, and no other address of IPv4. It opens nothing else exactly if with an
address of IPv6 the instance has all that start like it. -/
theorem policy_opens_starts (moves : List (Move Job)) (requeues : Requeues)
    (mount : MountSettings) (draw : Draw) (key : ObjectKey) (op : Operation) :
    let before : Session := ⟨(System.reconciling moves).cluster, requeues⟩
    let r := before.reconcile mount draw .sqlInstance key
    r.log.getLast? = some (.reconciled op "NetworkPolicy") →
      ∃ (i : Instance) (target : ObjectKey) (policy : NetworkPolicy) (spec : PolicySpec),
        before.cluster.stored? .sqlInstance key = some i ∧
        Source.targetKey? key.namespace .sqlInstance i = some target ∧
        r.state.cluster.stored? .policy target = some policy ∧ policy.spec = some spec ∧
        (spec.podSelector.matchExpressions = none ∧
          ∃ labels, spec.podSelector.matchLabels = some labels ∧
            labels.entries = [("app", (i.metadata.label? "app").getD "")]) ∧
        (∀ x, spec.Opens x ↔ ∃ y, i.Retains y ∧ y.SameStart x) ∧
        (∀ x, i.Retains x → spec.Opens x) ∧
        (∀ x : Ipv4Address, spec.Opens (.v4 x) ↔ i.Retains (.v4 x)) ∧
        ((∀ x, spec.Opens x ↔ i.Retains x) ↔
          ∀ y : Ipv6Address, i.Retains (.v6 y) →
            ∀ x : Ipv6Address, y.groups.take 2 = x.groups.take 2 → i.Retains (.v6 x)) := by
  intro before r h
  obtain ⟨history, hends, hreplays⟩ := ends_of_reported h
  obtain ⟨i, target, policy, hi, htarget, hpolicy, hproject, -⟩ :=
    hends.projects (System.sound_reconciling moves).consistent
      (System.identified_after Job.program moves) hreplays
  have hspec : some (policySpec i.app i.egressAddresses) = policy.spec :=
    Payload.rules.inj (Option.some.inj hproject)
  have hretained : ∀ x, i.Retains x →
      (policySpec i.app i.egressAddresses).Opens x := fun x hx =>
    opens_iff.mpr ⟨x, hx, .refl x⟩
  refine ⟨i, target, policy, _, hi, htarget, hpolicy, hspec.symm, ⟨rfl, _, rfl, rfl⟩,
    fun x => opens_iff, hretained, fun x => opens_v4_iff,
    fun hexact y hy x hstart => (hexact _).mp (opens_v6_iff.mpr ⟨y, hy, hstart⟩),
    fun hclosed x => ?_⟩
  cases x with
  | v4 x => exact opens_v4_iff
  | v6 x =>
    refine ⟨fun hx => ?_, hretained _⟩
    obtain ⟨y, hy, hstart⟩ := opens_v6_iff.mp hx
    exact hclosed y hy x hstart

end Session

namespace Sample

/-- An instance with an address of IPv6. -/
def modern : Instance where
  metadata := { name := some "db", «namespace» := some "ns" }
  spec := { resourceId := some "main" }
  status := some { addresses := [{ type := some "PRIMARY", address := some "fd00::1" }] }

/-- The instance is there, and nothing else. -/
def modernOnly : List (Move Job) := [.intervene (.insert .sqlInstance modern time)]

/-- The policy of the instance is asked for. -/
def openModern : Job := ⟨.sqlInstance, {}, ⟨time, seed⟩, ⟨"ns", "db"⟩⟩

/-- The key of the policy of this instance. -/
def modernPolicyKey : ObjectKey := ⟨"ns", "sql-db-main"⟩

/-- The address `fd00::n`. -/
def unique (n : UInt16) : IpAddress := .v6 ⟨[0xfd00, 0, 0, 0, 0, 0, 0, n], rfl⟩

theorem retains_unique_iff {i : Instance} (h : i.egressAddresses = ["fd00::1"]) (n : UInt16) :
    i.Retains (unique n) ↔ n = 1 := by
  have hparse : IpAddress.parse? "fd00::1".toList = some (unique 1) := by decide
  simp only [Instance.retains_iff, h, List.mem_singleton, exists_eq_left, hparse,
    Option.some.injEq]
  constructor
  · intro heq
    simpa [unique] using heq.symm
  · rintro rfl
    rfl

end Sample

namespace Session

open Instance Sample

/-- The policy for an address of IPv6 opens the address. -/
theorem policy_opens_starts_of_modern :
    let before : Session := ⟨(System.reconciling modernOnly).cluster, {}⟩
    let r := before.reconcile {} openModern.draw .sqlInstance openModern.key
    r.log.getLast? = some (.reconciled .created "NetworkPolicy") ∧
      ∃ (policy : NetworkPolicy) (spec : PolicySpec),
        r.state.cluster.stored? .policy modernPolicyKey = some policy ∧
        policy.spec = some spec ∧ spec.Opens (unique 1) := by
  have hcreated : ((⟨(System.reconciling modernOnly).cluster, {}⟩ : Session).reconcile {}
      openModern.draw .sqlInstance openModern.key).log.getLast? =
      some (.reconciled .created "NetworkPolicy") := by
    decide +kernel
  have hsource : ((System.reconciling modernOnly).cluster.stored? .sqlInstance
      openModern.key).map (fun i : Instance =>
        (Source.targetKey? openModern.key.namespace .sqlInstance i, i.egressAddresses)) =
      some (some modernPolicyKey, ["fd00::1"]) := by
    decide +kernel
  obtain ⟨i, target, policy, spec, hi, htarget, hpolicy, hspec, -, -, hretained, -⟩ :=
    policy_opens_starts modernOnly {} {} openModern.draw openModern.key .created hcreated
  obtain ⟨j, hj, hboth⟩ := Option.map_eq_some_iff.mp hsource
  obtain rfl := Option.some.inj (hi.symm.trans hj)
  obtain ⟨htarget', haddresses⟩ := Prod.mk.inj hboth
  obtain rfl := Option.some.inj (htarget.symm.trans htarget')
  exact ⟨hcreated, policy, spec, hpolicy, hspec,
    hretained _ ((retains_unique_iff haddresses 1).mpr rfl)⟩

/-- The policy for an address of IPv6 opens another address, which the instance does not have. -/
theorem policy_of_modern_opens_other :
    let before : Session := ⟨(System.reconciling modernOnly).cluster, {}⟩
    let r := before.reconcile {} openModern.draw .sqlInstance openModern.key
    r.log.getLast? = some (.reconciled .created "NetworkPolicy") ∧
      ∃ (policy : NetworkPolicy) (spec : PolicySpec),
        r.state.cluster.stored? .policy modernPolicyKey = some policy ∧
        policy.spec = some spec ∧ spec.Opens (unique 2) ∧ ¬modern.Retains (unique 2) := by
  intro before r
  have hafter : (r.log.getLast?, (r.state.cluster.stored? .policy modernPolicyKey).map
      (fun policy : NetworkPolicy => policy.spec)) =
      (some (.reconciled .created "NetworkPolicy"), some (some (policySpec "" ["fd00::1"]))) := by
    decide +kernel
  obtain ⟨hcreated, hstored⟩ := Prod.mk.inj hafter
  obtain ⟨policy, hpolicy, hspec⟩ := Option.map_eq_some_iff.mp hstored
  have hparse : IpAddress.parse? "fd00::1".toList = some (unique 1) := by decide
  refine ⟨hcreated, policy, _, hpolicy, hspec, opens_policySpec.mpr
    ⟨_, List.mem_singleton.mpr rfl, unique 1, hparse, rfl⟩, fun hretains => ?_⟩
  exact absurd ((retains_unique_iff (by decide +kernel) 2).mp hretains) (by decide)

end Session

end SqlOperator
