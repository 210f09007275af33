import SqlOperator.Proofs.Reconcile.Settled
import SqlOperator.Proofs.Upsert.Stages

/-!
# Upserts without queued failures

Where no failure is queued, every `get` is answered with what is stored. An upsert of a
target that is not there creates it, and one whose mutation refuses the target that it
finds ends in that failure. Both hold with races armed: a race renews the version of an
object that is read, and the object that is created was not there to be read.
-/

namespace SqlOperator

namespace Cluster

variable {c d : Cluster} {now : Timestamp} {kind : Kind} {key : ObjectKey}

theorem answer_get_of_unqueued (h : c.failures = []) (now : Timestamp) (kind : Kind)
    (key : ObjectKey) : (answer now (.get kind key) c).1 = .ok (c.stored? kind key) := by
  rw [answer_of_none (nextFailure?_of_unqueued h _), perform_get, MemoryStore.get_fst]
  rfl

/-- A `get` renews the version of what it finds, or changes no object. -/
theorem stored?_after_get (now : Timestamp) (kind : Kind) (key : ObjectKey) (c : Cluster)
    (k : Kind) (other : ObjectKey) :
    (answer now (.get kind key) c).2.stored? k other = c.stored? k other ∨
      k = kind ∧ other = key ∧ ∃ o version, c.stored? k other = some o ∧
        (answer now (.get kind key) c).2.stored? k other = some (k.stamp o version now) := by
  rcases stored?_answer now (.get kind key) c k other with
    hs | ⟨o, stored, hw, -⟩ | ⟨o, hcall, -, ho, hs⟩
  · exact .inl hs
  · rcases hw with hw | hw <;> cases hw
  · cases hcall
    exact .inr ⟨rfl, rfl, o, _, ho, hs⟩

/-- What is not there when it is asked for is not there afterwards. -/
theorem stored?_after_get_of_none (now : Timestamp) (hfree : c.stored? kind key = none) (k : Kind)
    (other : ObjectKey) :
    (answer now (.get kind key) c).2.stored? k other = c.stored? k other := by
  rcases stored?_after_get now kind key c k other with hs | ⟨rfl, rfl, o, -, ho, -⟩
  · exact hs
  · cases hfree.symm.trans ho

end Cluster

namespace Upsert.Ends

variable {now clock : Timestamp} {kind : Kind} {key : ObjectKey} {mutate : Mutation kind}
  {h : List Exchange} {result : Except Failure Operation} {c d : Cluster}

/-- A target that is not there, and can be shaped, is created. Nothing else changes. -/
theorem of_free {desired : kind.Object} (he : Upsert.Ends now key mutate h result)
    (hr : c.Replays clock h d) (hunqueued : c.failures = [])
    (hfree : c.stored? kind key = none) (hm : mutate (kind.blank key) .new = .ok desired)
    (hkey : kind.key desired = key) :
    result = .ok .created ∧ d.failures = [] ∧
      (∀ k other, k ≠ kind ∨ other ≠ key → d.stored? k other = c.stored? k other) ∧
      ∃ version, d.stored? kind key =
        some (kind.stamp (kind.touch desired now) version clock) := by
  have hget := Cluster.answer_get_of_unqueued hunqueued clock kind key
  rw [hfree] at hget
  have hread := Cluster.answer_ok hget
  have hleft := Cluster.stored?_after_get_of_none clock hfree
  have htouched : kind.key (kind.touch desired now) = key := (kind.key_touch ..).trans hkey
  cases he with
  | unread e => cases hr.1.symm.trans hget
  | notShaped hd => cases hm.symm.trans hd
  | @notCreated shaped e hd =>
    obtain ⟨-, hcreate, rfl⟩ := hr
    obtain rfl := Except.ok.inj (hm.symm.trans hd)
    have hplace : (Cluster.answer clock (.get kind key) c).2.stored? kind
        (kind.key (kind.touch desired now)) = none := by
      rw [htouched, hleft, hfree]
    rw [Cluster.answer_create_of_unqueued (hread.2.trans hunqueued) clock hplace] at hcreate
    cases hcreate
  | @created shaped stored hd =>
    obtain ⟨-, hcreate, rfl⟩ := hr
    obtain rfl := Except.ok.inj (hm.symm.trans hd)
    have hfailures := (Cluster.answer_ok hcreate).2
    rw [Cluster.answer_write_ok (.inl rfl) hcreate] at hfailures ⊢
    refine ⟨rfl, hfailures.trans (hread.2.trans hunqueued), fun k other hne => ?_, ?_⟩
    · rw [← hleft k other]
      rcases Cluster.stored?_write _ clock (kind.touch desired now) k other with
        hs | ⟨rfl, hother, -⟩
      · exact hs
      · rcases hne with hne | hne
        · exact absurd rfl hne
        · exact absurd (hother.symm.trans htouched) hne
    · rw [Cluster.stored?_setStore_self, MemoryStore.get?_write, if_pos htouched.symm]
      exact ⟨_, rfl⟩
  | notReshaped hd | unchanged hd => cases hr.1.symm.trans hget
  | notUpdated e hd | updated stored hd => cases hr.1.symm.trans hget

/-- A target that is there and is refused stays, with another version at most. -/
theorem of_refused {current : kind.Object} {failure : Failure}
    (he : Upsert.Ends now key mutate h result) (hr : c.Replays clock h d)
    (hunqueued : c.failures = []) (hfound : c.stored? kind key = some current)
    (hm : mutate current .existing = .error failure) :
    result = .error failure ∧ d = (Cluster.answer clock (.get kind key) c).2 := by
  have hget := Cluster.answer_get_of_unqueued hunqueued clock kind key
  rw [hfound] at hget
  have hsame {found : kind.Object}
      (ha : (Cluster.answer clock (.get kind key) c).1 = .ok (some found)) : found = current :=
    Option.some.inj (Except.ok.inj (ha.symm.trans hget))
  cases he with
  | unread e => cases hr.1.symm.trans hget
  | notShaped hd | notCreated e hd | created stored hd => cases hr.1.symm.trans hget
  | notReshaped hd =>
    obtain ⟨ha, rfl⟩ := hr
    obtain rfl := hsame ha
    exact ⟨congrArg Except.error (Except.error.inj (hd.symm.trans hm)), rfl⟩
  | unchanged hd | notUpdated e hd | updated stored hd =>
    obtain rfl := hsame hr.1
    cases hd.symm.trans hm

end Upsert.Ends

end SqlOperator
