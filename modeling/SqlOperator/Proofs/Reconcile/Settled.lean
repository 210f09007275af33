import SqlOperator.Proofs.Program.Replay
import SqlOperator.Proofs.Reconcile.FixedPoints

/-!
# What a successful reconcile leaves

After a reconcile that succeeded, all that it has read is still there, up to what
a store sets; a target is there that its mutation leaves as it is; and no failure or
race is in store for whoever reads all this again. The target is the one that was shaped
and written, or the one that was there before if there was nothing to change.
-/

namespace SqlOperator

namespace Kind

/-- Nothing but what a store sets tells `p` from `o`. -/
def SameContent (kind : Kind) (o p : kind.Object) : Prop :=
  ∃ version time uid, p = kind.withMetadata o { kind.metadata o with
    resourceVersion := version, creationTimestamp := time, uid := uid }

theorem sameContent_refl (kind : Kind) (o : kind.Object) : kind.SameContent o o :=
  ⟨_, _, _, (kind.withMetadata_metadata o).symm⟩

theorem sameContent_stamp (kind : Kind) (o : kind.Object) (version : Nat) (now : Timestamp) :
    kind.SameContent o (kind.stamp o version now) := ⟨_, _, _, rfl⟩

end Kind

namespace Cluster

variable {c d : Cluster} {now : Timestamp} {kind : Kind} {key : ObjectKey}

/-- No failure is queued for a `get` of the kind, and no race is armed. -/
structure Calm (c : Cluster) (kind : Kind) : Prop where
  unqueued : ∀ key, c.nextFailure? (.get kind key) = none
  unarmed : (c.store kind).raceArmed = false

/-- In a calm cluster a `get` answers what is stored and changes nothing. -/
theorem Calm.answer_get (h : c.Calm kind) (now : Timestamp) (key : ObjectKey) :
    answer now (.get kind key) c = (.ok (c.stored? kind key), c) := by
  rw [answer_of_none (h.unqueued key), perform_get,
    MemoryStore.get_of_not_raceArmed h.unarmed, setStore_store]
  rfl

theorem Calm.of_frame (h : c.Calm kind) (hf : d.failures = c.failures)
    (hs : (d.store kind).raceArmed = (c.store kind).raceArmed) : d.Calm kind := by
  refine ⟨fun key => ?_, hs.trans h.unarmed⟩
  rw [nextFailure?, hf]
  exact h.unqueued key

/-- A `get` that succeeds leaves a calm cluster. -/
theorem calm_answer_get {found : Option kind.Object}
    (h : (answer now (.get kind key) c).1 = .ok found) :
    (answer now (.get kind key) c).2.Calm kind := by
  obtain ⟨hnone, hf⟩ := answer_ok h
  refine ⟨fun other => ?_, ?_⟩
  · rw [nextFailure?, hf]
    exact hnone
  · rw [(answer_get_ok h).2, store_setStore_self]
    exact MemoryStore.raceArmed_get ..

/-- An accepted write leaves the written object, and the cluster as calm as it was. -/
theorem Calm.answer_write (h : c.Calm kind) {call : Call} {o : kind.Object}
    (hw : call.Writes kind o) {stored : call.Answer} (ha : (answer now call c).1 = .ok stored) :
    (answer now call c).2.Calm kind ∧ ∃ version,
      (answer now call c).2.stored? kind (kind.key o) = some (kind.stamp o version now) := by
  have hwrite := answer_write_ok hw ha
  refine ⟨h.of_frame (answer_ok ha).2 ?_, (c.store kind).versions + 1, ?_⟩
  · rw [hwrite, store_setStore_self]
    rfl
  · rw [hwrite, stored?_setStore_self, MemoryStore.get?_write, if_pos rfl]

/-- A `get` that succeeds leaves what it answers, up to what a store sets. -/
theorem stored?_answer_get {found : Option kind.Object}
    (h : (answer now (.get kind key) c).1 = .ok found) :
    (answer now (.get kind key) c).2.stored? kind key = found ∨
      ∃ o version time, found = some o ∧
        (answer now (.get kind key) c).2.stored? kind key = some (kind.stamp o version time) := by
  have hfound := (answer_get_ok h).1
  rcases stored?_answer now (.get kind key) c kind key with
    hs | ⟨o, stored, hw, -⟩ | ⟨o, -, -, ho, hs⟩
  · exact .inl (hs.trans hfound)
  · rcases hw with hw | hw <;> cases hw
  · exact .inr ⟨o, _, _, hfound.symm.trans ho, hs⟩

/-- A `get` of the key finds the object, up to what a store sets, and changes nothing. -/
structure Shows (c : Cluster) (kind : Kind) (key : ObjectKey) (o : kind.Object) : Prop where
  calm : c.Calm kind
  stored : ∃ p, c.stored? kind key = some p ∧ kind.SameContent o p

/-- What was read stays to be read while successful calls go to other stores. -/
theorem Replays.shows {h : List Exchange} {o : kind.Object}
    (hr : c.Replays now (⟨.get kind key, .ok (some o)⟩ :: h) d)
    (hok : ∀ e ∈ h, e.answer.isOk = true) (hkind : ∀ e ∈ h, e.call.kind ≠ kind) :
    d.Shows kind key o := by
  obtain ⟨ha, hr⟩ := hr
  obtain ⟨hf, hs⟩ := hr.frame hok
  have hstore := hs kind hkind
  refine ⟨(calm_answer_get ha).of_frame hf (by rw [hstore]), ?_⟩
  rw [stored?, hstore, ← stored?]
  rcases stored?_answer_get ha with hsame | ⟨p, version, time, hp, hstamp⟩
  · exact ⟨o, hsame, kind.sameContent_refl o⟩
  · obtain rfl := Option.some.inj hp
    exact ⟨_, hstamp, kind.sameContent_stamp o version time⟩

end Cluster

namespace Upsert

variable {now clock : Timestamp} {kind : Kind} {key : ObjectKey} {mutate : Mutation kind}
  {h : List Exchange} {op : Operation} {c d : Cluster} {owner : OwnerReference} {source : Metadata}

/-- What an operation leaves under its key, given the store from before. -/
inductive Leaves (now clock : Timestamp) {kind : Kind} (key : ObjectKey) (mutate : Mutation kind)
    (before : MemoryStore kind) : Operation → kind.Object → Prop where
  | created {desired : kind.Object} (version : Nat) : before.objects.get? key = none →
      mutate (kind.blank key) .new = .ok desired →
      Leaves now clock key mutate before .created
        (kind.stamp (kind.touch desired now) version clock)
  | unchanged {current : kind.Object} : before.objects.get? key = some current →
      mutate current .existing = .ok current →
      Leaves now clock key mutate before .unchanged current
  | raced {current : kind.Object} (version : Nat) : before.objects.get? key = some current →
      mutate current .existing = .ok current → before.raceArmed = true →
      Leaves now clock key mutate before .unchanged (kind.stamp current version clock)
  | updated {current desired : kind.Object} (version : Nat) :
      before.objects.get? key = some current → mutate current .existing = .ok desired →
      desired ≠ current →
      Leaves now clock key mutate before .updated
        (kind.stamp (kind.touch desired now) version clock)

/-- A target that an upsert leaves behind is one that its mutation fixes. -/
theorem Leaves.fixes {before : MemoryStore kind} {stored : kind.Object}
    {content : kind.Object → Prop} (hl : Leaves now clock key mutate before op stored)
    (hs : mutate.Shapes owner source content) : mutate.Fixes stored := by
  cases hl with
  | created version hfree hm =>
    exact hs.fixes_stamp (hs.fixes_touch (hs.fixes_of_ok hm) now) version clock
  | unchanged hfound hm => exact hm
  | raced version hfound hm harmed => exact hs.fixes_stamp hm version clock
  | updated version hfound hm hne =>
    exact hs.fixes_stamp (hs.fixes_touch (hs.fixes_of_ok hm) now) version clock

namespace Ends

/-- An upsert that succeeded had no failed call. -/
theorem calls_ok (he : Upsert.Ends now key mutate h (.ok op)) :
    ∀ e ∈ h, e.call.kind = kind ∧ e.answer.isOk = true := by
  cases he with
  | created | updated | unchanged => simp [Call.kind, Except.isOk, Except.toBool]

theorem calm (he : Upsert.Ends now key mutate h (.ok op)) (hr : c.Replays clock h d) :
    d.Calm kind := by
  cases he with
  | unchanged hm =>
    obtain ⟨hget, rfl⟩ := hr
    exact Cluster.calm_answer_get hget
  | created stored hm =>
    obtain ⟨hget, hcreate, rfl⟩ := hr
    exact ((Cluster.calm_answer_get hget).answer_write (.inl rfl) hcreate).1
  | updated stored hm hne =>
    obtain ⟨hget, hreplace, rfl⟩ := hr
    exact ((Cluster.calm_answer_get hget).answer_write (.inr rfl) hreplace).1

theorem leaves (he : Upsert.Ends now key mutate h (.ok op)) (hc : c.Consistent)
    (hr : c.Replays clock h d) (hm : mutate.ClaimsFor owner source) :
    ∃ stored, d.stored? kind key = some stored ∧
      Leaves now clock key mutate (c.store kind) op stored := by
  cases he with
  | @unchanged current hd =>
    obtain ⟨hget, rfl⟩ := hr
    have hfound := (Cluster.answer_get_ok hget).1
    rcases Cluster.stored?_answer clock (.get kind key) c kind key with
      hsame | ⟨o, stored, hw, -⟩ | ⟨o, -, harmed, ho, hstamp⟩
    · exact ⟨current, hsame.trans hfound, .unchanged hfound hd⟩
    · rcases hw with hw | hw <;> cases hw
    · obtain rfl := Option.some.inj (hfound.symm.trans ho)
      exact ⟨_, hstamp, .raced _ hfound hd harmed⟩
  | @created desired stored hd =>
    obtain ⟨hget, hcreate, rfl⟩ := hr
    obtain ⟨-, version, hstored⟩ :=
      (Cluster.calm_answer_get hget).answer_write (.inl rfl) hcreate
    rw [Kind.key_touch, (hm.shaped_new hd).1] at hstored
    exact ⟨_, hstored, .created version (Cluster.answer_get_ok hget).1 hd⟩
  | @updated current desired stored hd hne =>
    obtain ⟨hget, hreplace, rfl⟩ := hr
    have hfound := (Cluster.answer_get_ok hget).1
    obtain ⟨-, version, hstored⟩ :=
      (Cluster.calm_answer_get hget).answer_write (.inr rfl) hreplace
    -- What was read had the key that was asked for, and shaping keeps keys.
    have hkey : kind.key (kind.touch desired now) = key := by
      rw [Kind.key_touch, Kind.key, (hm.shaped_existing hd).2]
      exact (hc kind).filed hfound
    rw [hkey] at hstored
    exact ⟨_, hstored, .updated version hfound hd hne⟩

/-- After an upsert that succeeded the target is in line and can be read calmly. -/
theorem settles {content : kind.Object → Prop} (he : Upsert.Ends now key mutate h (.ok op))
    (hc : c.Consistent) (hr : c.Replays clock h d) (hs : mutate.Shapes owner source content) :
    d.Calm kind ∧ ∃ o, d.stored? kind key = some o ∧ mutate.Fixes o := by
  obtain ⟨stored, hstored, hleaves⟩ := he.leaves hc hr hs.claimsFor
  exact ⟨he.calm hr, stored, hstored, hleaves.fixes hs⟩

end Ends

end Upsert

end SqlOperator
