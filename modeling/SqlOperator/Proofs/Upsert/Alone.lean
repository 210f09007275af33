import SqlOperator.Proofs.Reconcile.Settled
import SqlOperator.Proofs.Upsert.Serializable

/-!
# Upserts that run alone

In a quiet cluster no failure and no race is in store, so that a `get` changes nothing
and a write that follows it is accepted. An upsert by itself then does what it would do
in one step of the store of its target.
-/

namespace SqlOperator

/-- The mutation's outcome for what is found under the key. -/
def Mutation.shape {kind : Kind} (mutate : Mutation kind) (key : ObjectKey) :
    Option kind.Object → Except Failure kind.Object
  | none => mutate (kind.blank key) .new
  | some current => mutate current .existing

namespace Cluster

/-- No failure is queued, and no race is armed. -/
structure Quiet (c : Cluster) : Prop where
  unqueued : c.failures = []
  unarmed : ∀ kind, (c.store kind).raceArmed = false

variable {c : Cluster} {kind : Kind}

theorem Quiet.calm (h : c.Quiet) (kind : Kind) : c.Calm kind :=
  ⟨fun _ => nextFailure?_of_unqueued h.unqueued _, h.unarmed kind⟩

end Cluster

namespace MemoryStore

variable {kind : Kind} {s t : MemoryStore kind} {clock now : Timestamp} {key : ObjectKey}
  {mutate : Mutation kind}

/-- An upsert in one step fails as its mutation fails, and then changes nothing. -/
theorem upsert_of_error {failure : Failure}
    (h : mutate.shape key (s.objects.get? key) = .error failure) :
    s.upsert clock now key mutate = (.error failure, s) := by
  unfold upsert
  cases hs : s.objects.get? key with
  | none =>
    rw [hs, Mutation.shape] at h
    simp [h]
  | some current =>
    rw [hs, Mutation.shape] at h
    simp [h]

/-- What is shaped for a key has this key, and belongs to whom it is claimed for. -/
theorem key_eq_and_belongsTo_of_shape {owner : OwnerReference} {source : Metadata}
    {desired : kind.Object} (hs : s.Consistent) (hm : mutate.ClaimsFor owner source)
    (h : mutate.shape key (s.objects.get? key) = .ok desired) :
    kind.key desired = key ∧ (kind.metadata desired).BelongsTo owner := by
  cases hfound : s.objects.get? key with
  | none =>
    rw [hfound] at h
    obtain ⟨hkey, hb, -⟩ := hm.shaped_new h
    exact ⟨hkey, hb⟩
  | some current =>
    rw [hfound] at h
    obtain ⟨hb, hmeta⟩ := hm.shaped_existing h
    refine ⟨?_, hmeta ▸ hb.inheritFrom source⟩
    rw [Kind.key, hmeta]
    exact hs.filed hfound

/-- An upsert in one step whose mutation succeeds brings its target about. It creates it
exactly if there was none, and leaves the store alone exactly if nothing is to change. -/
theorem exists_upsert_of_ok {owner : OwnerReference} {source : Metadata} {desired : kind.Object}
    (hs : s.Consistent) (hm : mutate.ClaimsFor owner source)
    (h : mutate.shape key (s.objects.get? key) = .ok desired) :
    ∃ op t stored, s.upsert clock now key mutate = (.ok op, t) ∧
      (op = .created ↔ s.objects.get? key = none) ∧ (op = .unchanged ↔ t = s) ∧
      t.objects.get? key = some stored ∧ (kind.metadata stored).BelongsTo owner := by
  obtain ⟨hkey, hb⟩ := key_eq_and_belongsTo_of_shape hs hm h
  have hchanges : s.write clock (kind.touch desired now) ≠ s := fun heq => by
    have hversions : s.versions + 1 = s.versions := congrArg MemoryStore.versions heq
    omega
  have hwritten : ∃ stored,
      (s.write clock (kind.touch desired now)).objects.get? key = some stored ∧
        (kind.metadata stored).BelongsTo owner := by
    refine ⟨_, by rw [get?_write, Kind.key_touch, hkey, if_pos rfl], ?_⟩
    rw [Kind.metadata_stamp, Kind.metadata_touch]
    exact (hb.touch now).stamp _ clock
  obtain ⟨stored, hstored⟩ := hwritten
  cases hfound : s.objects.get? key with
  | none =>
    rw [hfound, Mutation.shape] at h
    exact ⟨.created, _, stored, by simp [upsert, hfound, h], by simp, by simpa using hchanges,
      hstored⟩
  | some current =>
    rw [hfound, Mutation.shape] at h
    by_cases hd : desired = current
    · subst hd
      exact ⟨.unchanged, s, desired, by simp [upsert, hfound, h], by simp, by simp, hfound, hb⟩
    · exact ⟨.updated, _, stored, by simp [upsert, hfound, h, hd], by simp,
        by simpa using hchanges, hstored⟩

end MemoryStore

/-- An upsert that runs alone in a quiet cluster ends as if it were one step, and writes
nothing if it fails. -/
theorem Upsert.Ends.eq_upsert {now clock : Timestamp} {kind : Kind} {key : ObjectKey}
    {mutate : Mutation kind} {h : List Exchange} {result : Except Failure Operation}
    {c d : Cluster} {owner : OwnerReference} {source : Metadata}
    (he : Upsert.Ends now key mutate h result) (hq : c.Quiet) (hc : c.Consistent)
    (hr : c.Replays clock h d) (hm : mutate.ClaimsFor owner source) :
    result = ((c.store kind).upsert clock now key mutate).1 ∧
      d = c.setStore kind ((c.store kind).upsert clock now key mutate).2 ∧
      ((∃ failure, result = .error failure) → ∀ e ∈ h, e.call.isWrite = false) := by
  have hget := (hq.calm kind).answer_get clock key
  have hread {found : Option kind.Object}
      (ha : (Cluster.answer clock (.get kind key) c).1 = .ok found) :
      (c.store kind).objects.get? key = found := by
    rw [hget] at ha
    exact Except.ok.inj ha
  cases he with
  | unread e =>
    obtain ⟨ha, -⟩ := hr
    rw [hget] at ha
    cases ha
  | notShaped hd | notReshaped hd =>
    obtain ⟨ha, rfl⟩ := hr
    have hfound := hread ha
    rw [MemoryStore.upsert_of_error (by rw [hfound]; exact hd), hget, Cluster.setStore_store]
    exact ⟨rfl, rfl, fun _ => List.forall_mem_singleton.mpr rfl⟩
  | unchanged hd =>
    obtain ⟨ha, rfl⟩ := hr
    have hfound := hread ha
    rw [hget]
    simp [MemoryStore.upsert, hfound, hd]
  | @notCreated desired e hd =>
    obtain ⟨ha, hcreate, rfl⟩ := hr
    have hfree : c.stored? kind (kind.key (kind.touch desired now)) = none := by
      rw [Kind.key_touch, (hm.shaped_new hd).1]
      exact hread ha
    rw [hget, Cluster.answer_create_of_unqueued hq.unqueued clock hfree] at hcreate
    cases hcreate
  | @created desired stored hd =>
    obtain ⟨ha, hcreate, rfl⟩ := hr
    have hfound := hread ha
    rw [hget] at hcreate ⊢
    rw [Cluster.answer_write_ok (.inl rfl) hcreate]
    simp [MemoryStore.upsert, hfound, hd]
  | @notUpdated current desired e hd hne =>
    obtain ⟨ha, hreplace, rfl⟩ := hr
    have hfound := hread ha
    have hmeta := (hm.shaped_existing hd).2
    have hkey := (MemoryStore.key_eq_and_belongsTo_of_shape (hc kind) hm
      (by rw [hfound]; exact hd)).1
    have hstored : c.stored? kind (kind.key (kind.touch desired now)) = some current := by
      rw [Kind.key_touch, hkey]
      exact hfound
    have hversion : (kind.metadata current).resourceVersion =
        (kind.metadata (kind.touch desired now)).resourceVersion := by
      rw [Kind.metadata_touch, hmeta]
      rfl
    rw [hget, Cluster.answer_replace_of_unqueued hq.unqueued clock hstored hversion] at hreplace
    cases hreplace
  | @updated current desired stored hd hne =>
    obtain ⟨ha, hreplace, rfl⟩ := hr
    have hfound := hread ha
    rw [hget] at hreplace ⊢
    rw [Cluster.answer_write_ok (.inr rfl) hreplace]
    simp [MemoryStore.upsert, hfound, hd, hne]

end SqlOperator
