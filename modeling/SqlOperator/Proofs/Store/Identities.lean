import SqlOperator.Proofs.Store.Runs

/-!
# Identities of stored objects

A store gives an object an identity and a time of creation when it puts the object down for
the first time, and leaves alone what is there already. So every object that is stored at any
point of an interleaving has both, and putting it down again changes its version only.
-/

namespace SqlOperator

/-- The object was put down by a store, which gave it an identity and a time of creation. -/
structure Metadata.Identified (m : Metadata) : Prop where
  uid : m.uid.isSome
  created : m.creationTimestamp.isSome

namespace Metadata

variable {m : Metadata}

theorem identified_stamp (m : Metadata) (version : Nat) (now : Timestamp) :
    (m.stamp version now).Identified := ⟨rfl, rfl⟩

/-- On an object that was put down before, a store sets the version only. -/
theorem Identified.stamp_eq (h : m.Identified) (version : Nat) (now : Timestamp) :
    m.stamp version now = { m with resourceVersion := some (toString version) } := by
  obtain ⟨uid, huid⟩ := Option.isSome_iff_exists.mp h.uid
  obtain ⟨time, htime⟩ := Option.isSome_iff_exists.mp h.created
  rw [stamp, huid, htime, Option.getD_some, Option.getD_some, ← huid, ← htime]

end Metadata

namespace MemoryStore

variable {kind : Kind} {s : MemoryStore kind}

/-- Every object of the store has an identity and a time of creation. -/
def Identified (s : MemoryStore kind) : Prop :=
  ∀ key o, s.objects.get? key = some o → (kind.metadata o).Identified

theorem Identified.put (h : s.Identified) (now : Timestamp) (key : ObjectKey) (o : kind.Object) :
    (s.put now key o).2.Identified := by
  intro other p hp
  rw [get?_put] at hp
  split at hp
  · rw [← Option.some.inj hp, Kind.metadata_stamp]
    exact Metadata.identified_stamp _ _ now
  · exact h other p hp

theorem Identified.renew (h : s.Identified) (now : Timestamp) (key : ObjectKey) :
    (s.renew now key).Identified := by
  unfold MemoryStore.renew
  cases s.objects.get? key with
  | none => exact h
  | some o => exact h.put now key o

theorem Identified.remove (h : s.Identified) (key : ObjectKey) : (s.remove key).Identified :=
  fun other o ho => h other o (stored_of_remove ho)

end MemoryStore

namespace Cluster

variable {c : Cluster}

/-- Every object of the cluster has an identity and a time of creation. -/
def Identified (c : Cluster) : Prop := ∀ kind, (c.store kind).Identified

theorem Identified.setStore (h : c.Identified) {kind : Kind} {s : MemoryStore kind}
    (hs : s.Identified) : (c.setStore kind s).Identified := by
  intro other
  by_cases ho : other = kind
  · subst ho
    rwa [store_setStore_self]
  · rw [store_setStore_of_ne c s ho]
    exact h other

/-- A call leaves what is stored, or stamps it. -/
theorem Identified.answer (h : c.Identified) (now : Timestamp) (call : Call) :
    (Cluster.answer now call c).2.Identified := by
  intro kind key o ho
  have hstamped : ∀ {p : kind.Object} {version : Nat},
      (Cluster.answer now call c).2.stored? kind key = some (kind.stamp p version now) →
        (kind.metadata o).Identified := by
    intro p version hp
    rw [Option.some.inj (Eq.trans (Eq.symm ho) hp), Kind.metadata_stamp]
    exact Metadata.identified_stamp _ version now
  rcases stored?_answer now call c kind key with
    hsame | ⟨p, stored, -, -, -, hp⟩ | ⟨p, -, -, -, hp⟩
  · exact h kind key o (hsame.symm.trans ho)
  · exact hstamped hp
  · exact hstamped hp

theorem Identified.intervene (h : c.Identified) (act : Intervention) :
    (act.apply c).Identified := by
  cases act with
  | insert kind object now => exact h.setStore (MemoryStore.Identified.put (h kind) now _ object)
  | renew kind key now => exact h.setStore (MemoryStore.Identified.renew (h kind) now key)
  | remove kind key => exact h.setStore (MemoryStore.Identified.remove (h kind) key)
  | armRace kind =>
    have harmed : (c.store kind).armRace.Identified := h kind
    exact h.setStore harmed
  | fail failure => exact h

end Cluster

namespace System

variable {ι α : Type} {program : ι → Program α} {s : System ι α}

theorem identified_step (h : s.cluster.Identified) (move : Move ι) :
    (step program s move).cluster.Identified := by
  cases move with
  | start job => exact h
  | advance index now =>
    rcases step_advance program s index now with
      hs | ⟨p, event, next, -, -, hs⟩ | ⟨p, call, resume, -, -, hs⟩
    · rw [hs]
      exact h
    · rw [hs]
      exact h
    · rw [hs]
      exact h.answer now call
  | intervene act => exact h.intervene act

/-- Whatever has happened, all that is stored has an identity and a time of creation. -/
theorem identified_after (program : ι → Program α) (moves : List (Move ι)) :
    (after program moves).cluster.Identified := by
  induction moves using List.reverseRecOn with
  | nil => exact fun _ _ _ ho => nomatch ho
  | append_singleton moves move ih =>
    rw [after_concat]
    exact identified_step ih move

end System

end SqlOperator
