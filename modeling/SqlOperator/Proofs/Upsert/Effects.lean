import SqlOperator.Proofs.Ownership.Inheritance
import SqlOperator.Proofs.Reconcile.Outcome
import SqlOperator.Proofs.Reconcile.Settled

/-!
# Effects of upserts

What an upsert leaves is what its mutation makes of the target that was there, or of a blank
one, with the note of the last change and stamped by the store. So it follows the source, and a
target that was there retains the rest. An upsert that finds nothing to change writes nothing,
and then only a race can have given the target another version.

A reconcile that succeeded has left what the upsert of its plan leaves.
-/

namespace SqlOperator

namespace Upsert

variable {now clock : Timestamp} {kind : Kind} {key : ObjectKey} {mutate : Mutation kind}
  {h : List Exchange} {op : Operation} {c d : Cluster} {owner : OwnerReference} {source : Metadata}

/-- An upsert that succeeded has written, unless it found nothing to change. -/
theorem Ends.exists_write_iff (he : Upsert.Ends now key mutate h (.ok op)) :
    (∃ e ∈ h, e.call.isWrite = true) ↔ op ≠ .unchanged := by
  cases he with
  | unchanged hd => simp [Call.isWrite]
  | created stored hd => simp [Call.isWrite]
  | updated stored hd hne => simp [Call.isWrite]

namespace Leaves

variable {before : MemoryStore kind} {stored : kind.Object}

/-- What is left was shaped from what was there or a blank target, and is as it was shaped
beside its metadata. -/
theorem exists_shaped (hl : Leaves now clock key mutate before op stored) :
    ∃ presence desired m,
      mutate ((before.objects.get? key).getD (kind.blank key)) presence = .ok desired ∧
        stored = kind.withMetadata desired m := by
  cases hl with
  | @created desired version hfree hd =>
    rw [hfree]
    exact ⟨_, desired, _, hd, kind.withMetadata_withMetadata desired _ _⟩
  | unchanged hfound hd =>
    rw [hfound]
    exact ⟨_, stored, _, hd, (kind.withMetadata_metadata stored).symm⟩
  | @raced current version hfound hd harmed =>
    rw [hfound]
    exact ⟨_, current, _, hd, rfl⟩
  | @updated current desired version hfound hd hne =>
    rw [hfound]
    exact ⟨_, desired, _, hd, kind.withMetadata_withMetadata desired _ _⟩

/-- What is left follows the source. -/
theorem follows (hl : Leaves now clock key mutate before op stored)
    (hm : mutate.ClaimsFor owner source) : (kind.metadata stored).Follows source := by
  have hshaped : ∀ {o presence desired}, mutate o presence = .ok desired →
      (kind.metadata desired).Follows source := by
    intro o presence desired hd
    obtain ⟨claimed, -, hmeta⟩ := hm _ _ _ hd
    rw [hmeta]
    exact claimed.follows_inheritFrom source
  cases hl with
  | created version hfree hd =>
    rw [Kind.metadata_stamp, Kind.metadata_touch]
    exact ((hshaped hd).touch now).stamp version clock
  | unchanged hfound hd => exact hshaped hd
  | raced version hfound hd harmed =>
    rw [Kind.metadata_stamp]
    exact (hshaped hd).stamp version clock
  | updated version hfound hd hne =>
    rw [Kind.metadata_stamp, Kind.metadata_touch]
    exact ((hshaped hd).touch now).stamp version clock

/-- A target that was there retains what does not follow the source. -/
theorem retains (hl : Leaves now clock key mutate before op stored)
    (hm : mutate.ClaimsFor owner source) (hid : before.Identified) {t : kind.Object}
    (ht : before.objects.get? key = some t) :
    (kind.metadata stored).Retains (kind.metadata t) := by
  have hsame : ∀ {current}, before.objects.get? key = some current → current = t :=
    fun hfound => Option.some.inj (hfound.symm.trans ht)
  cases hl with
  | created version hfree hd => cases hfree.symm.trans ht
  | unchanged hfound hd =>
    rw [hsame hfound]
    exact .refl _
  | raced version hfound hd harmed =>
    rw [hsame hfound, Kind.metadata_stamp]
    exact (Metadata.Retains.refl _).stamp (hid key t ht) version clock
  | updated version hfound hd hne =>
    rw [hsame hfound] at hd
    rw [Kind.metadata_stamp, Kind.metadata_touch, (hm.shaped_existing hd).2]
    exact ((Metadata.retains_inheritFrom _ source).touch now).stamp (hid key t ht) version clock

/-- A target that was there is updated with the note of the change, or left as it was unless
there was a race for it. -/
theorem updated_or_unchanged (hl : Leaves now clock key mutate before op stored) {t : kind.Object}
    (ht : before.objects.get? key = some t) :
    op = .updated ∧
        (kind.metadata stored).annotation? Annotation.lastUpdated = some now.render ∨
      op = .unchanged ∧
        (stored = t ∨
          before.raceArmed = true ∧ ∃ version, stored = kind.stamp t version clock) := by
  have hsame : ∀ {current}, before.objects.get? key = some current → current = t :=
    fun hfound => Option.some.inj (hfound.symm.trans ht)
  cases hl with
  | created version hfree hd => cases hfree.symm.trans ht
  | unchanged hfound hd => exact .inr ⟨rfl, .inl (hsame hfound)⟩
  | raced version hfound hd harmed =>
    obtain rfl := hsame hfound
    exact .inr ⟨rfl, .inr ⟨harmed, version, rfl⟩⟩
  | updated version hfound hd hne =>
    refine .inl ⟨rfl, ?_⟩
    rw [Kind.metadata_stamp, Kind.metadata_touch]
    exact (Metadata.annotation?_touch _ now _).trans (if_pos rfl)

end Leaves

end Upsert

namespace Source

variable {s : Source} {mount : MountSettings} {draw : Draw} {key : ObjectKey}
  {clock : Timestamp} {c d : Cluster} {h : List Exchange} {op : Operation}

/-- What a reconcile has found, planned and left. -/
structure Leaves (s : Source) (mount : MountSettings) (draw : Draw) (key : ObjectKey)
    (clock : Timestamp) (c d : Cluster) (op : Operation) (x : s.kind.Object) (p : Plan s.target)
    (stored : s.target.Object) : Prop where
  planned : ∃ read m, s.Prepared mount key draw.seed read p ∧ c.Replays clock read m
  found : c.stored? s.kind key = some x
  target : s.targetKey? key.namespace x = some p.target
  shaping : s.Shaping x p.mutate
  left : d.stored? s.target p.target = some stored
  leaves : Upsert.Leaves draw.now clock p.target p.mutate (c.store s.target) op stored

theorem Inputs.not_isWrite {x : s.kind.Object} {read : List Exchange}
    (hi : Inputs key s x read) : ∀ e ∈ read, ¬e.call.isWrite = true := by
  cases hi <;> simp [Call.isWrite]

theorem Ends.exists_leaves (he : s.Ends mount draw key h (.ok op)) (hc : c.Consistent)
    (hr : c.Replays clock h d) :
    (∃ x p stored, s.Leaves mount draw key clock c d op x p stored) ∧
      ((∃ e ∈ h, e.call.isWrite = true) ↔ op ≠ .unchanged) := by
  cases he with
  | @upserted read own r p hp hu =>
    obtain ⟨m, hread, hupsert⟩ := Cluster.replays_append.mp hr
    obtain ⟨x, hinputs, htarget, hshaping⟩ := hp.inputs
    obtain ⟨hx, hstore⟩ := hinputs.stored?_and_store_eq hread
    obtain ⟨stored, hstored, hleaves⟩ :=
      hu.leaves (hread.consistent hc) hupsert hshaping.claimsFor
    rw [hstore] at hleaves
    refine ⟨⟨x, p, stored, ⟨read, m, hp, hread⟩, hx, htarget, hshaping, hstored, hleaves⟩, ?_⟩
    rw [← hu.exists_write_iff]
    constructor
    · rintro ⟨e, he, hwrite⟩
      have hown := (List.mem_append.mp he).resolve_left fun hm => hinputs.not_isWrite e hm hwrite
      exact ⟨e, hown, hwrite⟩
    · rintro ⟨e, he, hwrite⟩
      exact ⟨e, List.mem_append_right _ he, hwrite⟩

end Source

end SqlOperator
