import SqlOperator.Proofs.Ownership.Exclusive
import SqlOperator.Proofs.Upsert.Effects

/-!
# Owners of finished targets

A reconcile that succeeded leaves a target with one owner reference, which names its
source. In a target that it creates this is the reference to the source as it was read,
`uid` included. A target that is there already is only checked, and keeps the reference
that it has; so a source that was deleted and made anew takes over its previous target
under the `uid` of its predecessor.
-/

namespace SqlOperator

/-- What an operation on a target leaves for owners, given the owner that the target is
for and what was found in its place: the one owner `ref`. -/
structure Operation.LeavesOwner (op : Operation) {kind : Kind} (owner : OwnerReference)
    (found : Option kind.Object) (stored : kind.Object) (ref : OwnerReference) : Prop where
  only : (kind.metadata stored).ownerReferences = some [ref]
  named : ref.apiVersion = owner.apiVersion ∧ ref.kind = owner.kind ∧ ref.name = owner.name
  /-- A new target gets the owner that it is for, with its `uid`. -/
  created : op = .created → found = none ∧ ref = owner
  /-- A target that was found keeps the owner that it had. -/
  kept : op ≠ .created →
    ∃ o, found = some o ∧ (kind.metadata o).ownerReferences = some [ref]

/-- A target that is found to belong to `owner`, and keeps its owners, is left so. -/
theorem Metadata.BelongsTo.leavesOwner {kind : Kind} {found stored : kind.Object}
    {owner : OwnerReference} (hb : (kind.metadata found).BelongsTo owner) (op : Operation)
    (hs : (kind.metadata stored).ownerReferences = (kind.metadata found).ownerReferences)
    (hop : op ≠ .created) : ∃ ref, op.LeavesOwner owner (some found) stored ref := by
  obtain ⟨ref, href, hnamed⟩ := hb.owned
  exact ⟨ref, hs.trans href, hnamed, fun h => absurd h hop, fun _ => ⟨found, rfl, href⟩⟩

/-- What an upsert leaves has one owner. -/
theorem Upsert.Leaves.leavesOwner {now clock : Timestamp} {kind : Kind} {key : ObjectKey}
    {mutate : Mutation kind} {op : Operation} {before : MemoryStore kind} {stored : kind.Object}
    {owner : OwnerReference} {source : Metadata}
    (hl : Upsert.Leaves now clock key mutate before op stored)
    (hm : mutate.ClaimsFor owner source) :
    ∃ ref, op.LeavesOwner owner (before.objects.get? key) stored ref := by
  cases hl with
  | created version hfree hd =>
    refine ⟨owner, ?_, ⟨rfl, rfl, rfl⟩, fun _ => ⟨hfree, rfl⟩, fun h => absurd rfl h⟩
    rw [Kind.metadata_stamp, Kind.metadata_touch]
    exact (hm.shaped_new hd).2.2
  | unchanged hfound hd =>
    rw [hfound]
    exact (hm.shaped_existing hd).1.leavesOwner .unchanged rfl (by decide)
  | raced version hfound hd harmed =>
    rw [hfound]
    refine (hm.shaped_existing hd).1.leavesOwner .unchanged ?_ (by decide)
    rw [Kind.metadata_stamp]
    rfl
  | updated version hfound hd hne =>
    obtain ⟨hb, hmeta⟩ := hm.shaped_existing hd
    rw [hfound]
    refine hb.leavesOwner .updated ?_ (by decide)
    rw [Kind.metadata_stamp, Kind.metadata_touch, hmeta]
    rfl

namespace Source

variable {s : Source} {mount : MountSettings} {draw : Draw} {key : ObjectKey}

/-- A reconcile that succeeded leaves one owner in its target, for the source that it has
read. -/
theorem Ends.leavesOwner {h : List Exchange} {op : Operation} {c d : Cluster}
    {clock : Timestamp} (he : s.Ends mount draw key h (.ok op)) (hc : c.Consistent)
    (hr : c.Replays clock h d) :
    ∃ x target stored ref, c.stored? s.kind key = some x ∧
      s.targetKey? key.namespace x = some target ∧
      d.stored? s.target target = some stored ∧
      op.LeavesOwner (s.kind.ownerReference x) (c.stored? s.target target) stored ref := by
  obtain ⟨⟨x, p, stored, hleaves⟩, -⟩ := he.exists_leaves hc hr
  obtain ⟨ref, howner⟩ := hleaves.leaves.leavesOwner hleaves.shaping.claimsFor
  exact ⟨x, p.target, stored, ref, hleaves.found, hleaves.target, hleaves.left, howner⟩

end Source

namespace Session

/-- Whenever a reconcile has created, updated or found unchanged, from every state that
others and reconciles can lead to, its target has one owner reference, which names the
source that was read by API version, kind and name. In a target that was created it has
the `uid` of the source, too; in any other it is the one that was there. -/
theorem one_owner_after_success (moves : List (Move Job)) (requeues : Requeues)
    (source : Source) (mount : MountSettings) (draw : Draw) (key : ObjectKey) (op : Operation) :
    let before : Session := ⟨(System.reconciling moves).cluster, requeues⟩
    let r := before.reconcile mount draw source key
    r.log.getLast? = some (.reconciled op source.target.name) →
      ∃ x target stored ref, before.cluster.stored? source.kind key = some x ∧
        source.targetKey? key.namespace x = some target ∧
        r.state.cluster.stored? source.target target = some stored ∧
        op.LeavesOwner (source.kind.ownerReference x)
          (before.cluster.stored? source.target target) stored ref := by
  intro before r h
  obtain ⟨result, hcomes, hends, hreplays⟩ :=
    exists_comesTo (Source.task_always source mount draw key) before
  obtain rfl := hcomes.eq_ok h
  exact hends.leavesOwner (System.sound_reconciling moves).consistent hreplays

end Session

namespace Sample

/-- The policy of the instance was created, and the instance was deleted and made anew. -/
def remaking : List (Move Job) :=
  creating ++ [.advance 0 time, .intervene (.remove .sqlInstance ⟨"ns", "db"⟩),
    .intervene (.insert .sqlInstance (database "10.0.0.1") time)]

end Sample

namespace Session

open Sample

/-- The policy of an instance that was made anew is found unchanged, and has an owner with
the name of the instance. -/
theorem one_owner_after_remaking :
    ∃ policy ref, (reconcile ⟨(System.reconciling remaking).cluster, {}⟩ {} openPolicy.draw
        .sqlInstance openPolicy.key).state.cluster.stored? .policy policyKey = some policy ∧
      (Kind.metadata .policy policy).ownerReferences = some [ref] ∧ ref.name = "db" := by
  have hunchanged : (reconcile ⟨(System.reconciling remaking).cluster, {}⟩ {} openPolicy.draw
      .sqlInstance openPolicy.key).log.getLast? =
        some (.reconciled .unchanged "NetworkPolicy") := by
    decide +kernel
  have htarget : ((System.reconciling remaking).cluster.stored? .sqlInstance openPolicy.key).map
      (fun i => (Source.sqlInstance.targetKey? "ns" i, (Kind.metadata .sqlInstance i).anyName)) =
        some (some policyKey, "db") := by
    decide +kernel
  obtain ⟨i, target, policy, ref, hi, hkey, hpolicy, hleaves⟩ :=
    one_owner_after_success remaking {} .sqlInstance {} openPolicy.draw openPolicy.key .unchanged
      hunchanged
  obtain ⟨j, hj, heq⟩ := Option.map_eq_some_iff.mp htarget
  obtain rfl := Option.some.inj (hi.symm.trans hj)
  obtain ⟨hkey', hname'⟩ := Prod.mk.inj heq
  obtain rfl := Option.some.inj (hkey.symm.trans hkey')
  exact ⟨policy, ref, hpolicy, hleaves.only, hleaves.named.2.2.trans hname'⟩

/-- A target need not have the `uid` of its source as the owner's: the policy of an
instance that was made anew is found unchanged, with the `uid` of the former instance. -/
theorem stale_owner_after_remaking :
    let before : Session := ⟨(System.reconciling remaking).cluster, {}⟩
    let r := before.reconcile {} openPolicy.draw .sqlInstance openPolicy.key
    r.log.getLast? = some (.reconciled .unchanged "NetworkPolicy") ∧
      (before.cluster.stored? .sqlInstance openPolicy.key).map
        (fun i => (Kind.ownerReference .sqlInstance i).uid) = some "uid-2" ∧
      (r.state.cluster.stored? .policy policyKey).map
        (fun policy => ((Kind.metadata .policy policy).ownerReferences.getD []).map (·.uid)) =
          some ["uid-1"] := by
  decide +kernel

end Session

end SqlOperator
