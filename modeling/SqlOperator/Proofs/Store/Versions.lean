import SqlOperator.Store.Cluster

/-!
# Versions identify contents

A store never gives a version out twice. A copy that was read at some time
therefore equals whatever is stored later with its version, and a replacement
that is accepted replaces what was read.

## Implementation notes

`MemoryStore.Evolves` says all that later proofs need of a change of a store:
what is stored afterwards was stored before or is newer than anything that was.
Each operation of a store is shown once to be such a change.
-/

namespace SqlOperator

/-- Versions are told apart by their texts. -/
theorem versionText_injective {v w : Nat} (h : toString v = toString w) : v = w := by
  have hd : Nat.toDigits 10 v = Nat.toDigits 10 w := by
    simpa using congrArg String.toList h
  simpa using congrArg (fun digits => Nat.ofDigitChars 10 digits 0) hd

namespace Kind

/-- The object carries the version. -/
def HasVersion (kind : Kind) (o : kind.Object) (v : Nat) : Prop :=
  (kind.metadata o).resourceVersion = some (toString v)

theorem HasVersion.unique {kind : Kind} {o : kind.Object} {v w : Nat}
    (hv : kind.HasVersion o v) (hw : kind.HasVersion o w) : v = w :=
  versionText_injective (Option.some.inj (hv.symm.trans hw))

theorem HasVersion.of_resourceVersion_eq {kind : Kind} {o p : kind.Object} {v : Nat}
    (h : kind.HasVersion o v)
    (he : (kind.metadata o).resourceVersion = (kind.metadata p).resourceVersion) :
    kind.HasVersion p v :=
  he.symm.trans h

/-- The object as a store puts it down with a version. -/
def stamp (kind : Kind) (o : kind.Object) (version : Nat) (now : Timestamp) : kind.Object :=
  kind.withMetadata o ((kind.metadata o).stamp version now)

@[simp] theorem metadata_stamp (kind : Kind) (o : kind.Object) (version : Nat)
    (now : Timestamp) :
    kind.metadata (kind.stamp o version now) = (kind.metadata o).stamp version now :=
  metadata_withMetadata ..

@[simp] theorem key_stamp (kind : Kind) (o : kind.Object) (version : Nat) (now : Timestamp) :
    kind.key (kind.stamp o version now) = kind.key o := by
  simp [key, ObjectKey.ofMetadata, Metadata.anyName, Metadata.stamp]

theorem hasVersion_stamp (kind : Kind) (o : kind.Object) (version : Nat) (now : Timestamp) :
    kind.HasVersion (kind.stamp o version now) version := by
  simp [HasVersion, Metadata.stamp]

end Kind

namespace MemoryStore

variable {kind : Kind} {s t u : MemoryStore kind}

/-- Every object is under its own key, with a version that was given out and that
no other object has. -/
structure Consistent (s : MemoryStore kind) : Prop where
  filed : ∀ {key o}, s.objects.get? key = some o → kind.key o = key
  versioned : ∀ {key o}, s.objects.get? key = some o →
    ∃ v, v ≤ s.versions ∧ kind.HasVersion o v
  distinct : ∀ {key other o p v}, s.objects.get? key = some o →
    s.objects.get? other = some p → kind.HasVersion o v → kind.HasVersion p v → key = other

/-- `t` may come from `s`: what is stored in it was stored before, or is newer. -/
structure Evolves (s t : MemoryStore kind) : Prop where
  versions_le : s.versions ≤ t.versions
  objects : ∀ {key o}, t.objects.get? key = some o →
    s.objects.get? key = some o ∨
      ∃ v, s.versions < v ∧ v ≤ t.versions ∧ kind.HasVersion o v

/-- A content that the store has held under a key: as long as anything is stored
with its version, it is this content under this key. -/
structure Issued (s : MemoryStore kind) (key : ObjectKey) (o : kind.Object) : Prop where
  filed : kind.key o = key
  unique : ∃ v, v ≤ s.versions ∧ kind.HasVersion o v ∧
    ∀ {other p}, s.objects.get? other = some p → kind.HasVersion p v → other = key ∧ p = o

theorem Evolves.refl (s : MemoryStore kind) : s.Evolves s := ⟨Nat.le_refl _, Or.inl⟩

theorem Evolves.of_objects_eq (ho : t.objects = s.objects) (hv : t.versions = s.versions) :
    s.Evolves t :=
  ⟨Nat.le_of_eq hv.symm, fun h => Or.inl (ho ▸ h)⟩

theorem Evolves.trans (h₁ : s.Evolves t) (h₂ : t.Evolves u) : s.Evolves u := by
  refine ⟨Nat.le_trans h₁.versions_le h₂.versions_le, fun h => ?_⟩
  rcases h₂.objects h with h | ⟨v, hlt, hle, hv⟩
  · rcases h₁.objects h with h | ⟨v, hlt, hle, hv⟩
    · exact Or.inl h
    · exact Or.inr ⟨v, hlt, Nat.le_trans hle h₂.versions_le, hv⟩
  · exact Or.inr ⟨v, Nat.lt_of_le_of_lt h₁.versions_le hlt, hle, hv⟩

theorem Consistent.of_objects_eq (h : s.Consistent) (ho : t.objects = s.objects)
    (hv : t.versions = s.versions) : t.Consistent := by
  obtain ⟨filed, versioned, distinct⟩ := h
  constructor
  · intro key o hk
    exact filed (ho ▸ hk)
  · intro key o hk
    exact hv ▸ versioned (ho ▸ hk)
  · intro key other o p v hk hp
    exact distinct (ho ▸ hk) (ho ▸ hp)

theorem Consistent.issued (h : s.Consistent) {key : ObjectKey} {o : kind.Object}
    (hk : s.objects.get? key = some o) : s.Issued key o := by
  obtain ⟨v, hle, hv⟩ := h.versioned hk
  refine ⟨h.filed hk, v, hle, hv, fun {other p} hp hpv => ?_⟩
  have he : other = key := h.distinct hp hk hpv hv
  subst he
  exact ⟨rfl, Option.some.inj (hp.symm.trans hk)⟩

theorem Issued.evolves {key : ObjectKey} {o : kind.Object} (h : s.Issued key o)
    (ht : s.Evolves t) : t.Issued key o := by
  obtain ⟨hkey, v, hle, hv, hu⟩ := h
  refine ⟨hkey, v, Nat.le_trans hle ht.versions_le, hv, fun {other p} hp hpv => ?_⟩
  rcases ht.objects hp with hp | ⟨w, hlt, -, hw⟩
  · exact hu hp hpv
  · have : w = v := hw.unique hpv
    omega

/-- What is stored with the version of an issued content is this content. -/
theorem Issued.eq_of_resourceVersion_eq {key other : ObjectKey} {o p : kind.Object}
    (h : s.Issued key o) (hp : s.objects.get? other = some p)
    (he : (kind.metadata p).resourceVersion = (kind.metadata o).resourceVersion) :
    other = key ∧ p = o := by
  obtain ⟨-, v, -, hv, hu⟩ := h
  exact hu hp (hv.of_resourceVersion_eq he.symm)

/-- A content that is stored still, or again, has been stored all the time. -/
theorem Evolves.stored_before {key : ObjectKey} {o : kind.Object} (hs : s.Issued key o)
    (h : s.Evolves t) (ht : t.objects.get? key = some o) : s.objects.get? key = some o := by
  rcases h.objects ht with hk | ⟨v, hlt, -, hv⟩
  · exact hk
  · obtain ⟨-, w, hle, hw, -⟩ := hs
    have : v = w := hv.unique hw
    omega

section put

theorem objects_put (s : MemoryStore kind) (now : Timestamp) (key : ObjectKey)
    (o : kind.Object) :
    (s.put now key o).2.objects =
      s.objects.insert key (kind.stamp o (s.versions + 1) now) := rfl

/-- What is stored after an object was put down. -/
theorem get?_put (s : MemoryStore kind) (now : Timestamp) (key other : ObjectKey)
    (o : kind.Object) :
    (s.put now key o).2.objects.get? other =
      if other = key then some (kind.stamp o (s.versions + 1) now)
      else s.objects.get? other := by
  rw [objects_put, SortedMap.get?_insert]

/-- The object that is put has a newer version than any that was there. -/
theorem Evolves.put (s : MemoryStore kind) (now : Timestamp) (key : ObjectKey)
    (o : kind.Object) : s.Evolves (s.put now key o).2 := by
  refine ⟨Nat.le_succ _, fun {other p} hp => ?_⟩
  rw [get?_put] at hp
  split at hp
  · obtain rfl := Option.some.inj hp
    exact Or.inr ⟨s.versions + 1, Nat.lt_succ_self _, Nat.le_refl _, kind.hasVersion_stamp ..⟩
  · exact Or.inl hp

/-- No two objects get one version, because the versions are counted. -/
theorem Consistent.put (h : s.Consistent) (now : Timestamp) {key : ObjectKey}
    {o : kind.Object} (hk : kind.key o = key) : (s.put now key o).2.Consistent := by
  have fresh : ∀ {other p}, s.objects.get? other = some p →
      ¬ kind.HasVersion p (s.versions + 1) := fun hp hv => by
    obtain ⟨v, hle, hw⟩ := h.versioned hp
    have : v = s.versions + 1 := hw.unique hv
    omega
  constructor
  · intro other p hp
    rw [get?_put] at hp
    split at hp
    · rename_i he
      rw [← Option.some.inj hp, Kind.key_stamp, hk, he]
    · exact h.filed hp
  · intro other p hp
    rw [get?_put] at hp
    split at hp
    · rw [← Option.some.inj hp]
      exact ⟨s.versions + 1, Nat.le_refl _, kind.hasVersion_stamp ..⟩
    · obtain ⟨v, hle, hv⟩ := h.versioned hp
      exact ⟨v, Nat.le_succ_of_le hle, hv⟩
  · intro a b p q v hp hq hpv hqv
    rw [get?_put] at hp hq
    split at hp <;> split at hq
    · rename_i ha hb
      exact ha.trans hb.symm
    · obtain rfl := Option.some.inj hp
      exact absurd ((kind.hasVersion_stamp ..).unique hpv ▸ hqv) (fresh hq)
    · obtain rfl := Option.some.inj hq
      exact absurd ((kind.hasVersion_stamp ..).unique hqv ▸ hpv) (fresh hp)
    · exact h.distinct hp hq hpv hqv

end put

end MemoryStore

end SqlOperator
