import SqlOperator.Proofs.Store.Versions

/-!
# What calls do to a cluster

A call that is answered with an error changes no object. A creation or a
replacement that is accepted puts one object down, in a free place or in place of
the object whose version it names. A `get` changes nothing unless a race is
armed, and then only the version of the object it asks for.
-/

namespace SqlOperator

namespace MemoryStore

variable {kind : Kind} {s : MemoryStore kind}

/-- The store after a successful creation or replacement. -/
def write (s : MemoryStore kind) (now : Timestamp) (o : kind.Object) : MemoryStore kind :=
  { (s.put now (kind.key o) o).2 with writes := s.writes + 1 }

theorem get?_write (s : MemoryStore kind) (now : Timestamp) (o : kind.Object)
    (key : ObjectKey) :
    (s.write now o).objects.get? key =
      if key = kind.key o then some (kind.stamp o (s.versions + 1) now)
      else s.objects.get? key :=
  get?_put s now (kind.key o) key o

theorem Evolves.write (s : MemoryStore kind) (now : Timestamp) (o : kind.Object) :
    s.Evolves (s.write now o) :=
  (Evolves.put s now (kind.key o) o).trans (.of_objects_eq rfl rfl)

theorem Consistent.write (h : s.Consistent) (now : Timestamp) (o : kind.Object) :
    (s.write now o).Consistent :=
  (h.put now (o := o) rfl).of_objects_eq rfl rfl

theorem create_eq (s : MemoryStore kind) (now : Timestamp) (o : kind.Object) :
    s.create now o =
      if (s.objects.get? (kind.key o)).isSome then (.error (.alreadyExists (kind.key o)), s)
      else (.ok (kind.stamp o (s.versions + 1) now), s.write now o) := by
  rfl

theorem replace_eq (s : MemoryStore kind) (now : Timestamp) (o : kind.Object) :
    s.replace now o =
      match s.objects.get? (kind.key o) with
      | none => (.error (.notFound (kind.key o)), s)
      | some before =>
        if (kind.metadata before).resourceVersion ≠ (kind.metadata o).resourceVersion then
          (.error (.conflict (kind.key o)), s)
        else (.ok (kind.stamp o (s.versions + 1) now), s.write now o) := by
  rfl

/-- A free key can be created. -/
theorem create_of_free (now : Timestamp) {o : kind.Object}
    (hfree : s.objects.get? (kind.key o) = none) :
    s.create now o = (.ok (kind.stamp o (s.versions + 1) now), s.write now o) := by
  rw [create_eq, hfree]
  rfl

/-- An object can be replaced by one with its version. -/
theorem replace_of_version (now : Timestamp) {before o : kind.Object}
    (hbefore : s.objects.get? (kind.key o) = some before)
    (hversion : (kind.metadata before).resourceVersion = (kind.metadata o).resourceVersion) :
    s.replace now o = (.ok (kind.stamp o (s.versions + 1) now), s.write now o) := by
  rw [replace_eq, hbefore]
  exact if_neg (not_not_intro hversion)

/-- A creation is accepted in a free place, and refused otherwise. -/
theorem create_cases (s : MemoryStore kind) (now : Timestamp) (o : kind.Object) :
    (s.objects.get? (kind.key o) = none ∧
      s.create now o = (.ok (kind.stamp o (s.versions + 1) now), s.write now o)) ∨
    ∃ e, s.create now o = (.error e, s) := by
  cases h : s.objects.get? (kind.key o) with
  | none => exact Or.inl ⟨rfl, create_of_free now h⟩
  | some p =>
    rw [create_eq, h]
    exact Or.inr ⟨_, rfl⟩

/-- A replacement is accepted in place of an object with its version, and refused otherwise. -/
theorem replace_cases (s : MemoryStore kind) (now : Timestamp) (o : kind.Object) :
    (∃ before, s.objects.get? (kind.key o) = some before ∧
      (kind.metadata before).resourceVersion = (kind.metadata o).resourceVersion ∧
      s.replace now o = (.ok (kind.stamp o (s.versions + 1) now), s.write now o)) ∨
    ∃ e, s.replace now o = (.error e, s) := by
  cases h : s.objects.get? (kind.key o) with
  | none =>
    rw [replace_eq, h]
    exact Or.inr ⟨_, rfl⟩
  | some before =>
    by_cases hv : (kind.metadata before).resourceVersion = (kind.metadata o).resourceVersion
    · exact Or.inl ⟨before, rfl, hv, replace_of_version now h hv⟩
    · rw [replace_eq, h]
      exact Or.inr ⟨_, if_pos hv⟩

/-- What is found and left behind by a `get`. -/
theorem get_eq (s : MemoryStore kind) (now : Timestamp) (key : ObjectKey) :
    s.get now key =
      (s.objects.get? key,
        if s.raceArmed then
          match s.objects.get? key with
          | some o => (({ s with raceArmed := false } : MemoryStore kind).put now key o).2
          | none => { s with raceArmed := false }
        else s) := by
  unfold get
  cases s.raceArmed <;> cases s.objects.get? key <;> rfl

theorem get_fst (s : MemoryStore kind) (now : Timestamp) (key : ObjectKey) :
    (s.get now key).1 = s.objects.get? key := by
  rw [get_eq]

/-- Reading changes nothing unless a race is armed. -/
theorem get_of_not_raceArmed (h : s.raceArmed = false) (now : Timestamp) (key : ObjectKey) :
    s.get now key = (s.objects.get? key, s) := by
  simp [get_eq, h]

theorem raceArmed_get (s : MemoryStore kind) (now : Timestamp) (key : ObjectKey) :
    (s.get now key).2.raceArmed = false := by
  rw [get_eq]
  cases hr : s.raceArmed
  · simpa using hr
  · cases s.objects.get? key <;> rfl

/-- A race that takes place renews the version of the object that was asked for. -/
theorem get?_get (s : MemoryStore kind) (now : Timestamp) (key other : ObjectKey) :
    (s.get now key).2.objects.get? other =
      if s.raceArmed ∧ other = key then
        (s.objects.get? key).map fun o => kind.stamp o (s.versions + 1) now
      else s.objects.get? other := by
  rw [get_eq]
  by_cases hr : s.raceArmed = true
  · cases hk : s.objects.get? key with
    | none => by_cases ho : other = key <;> simp [hr, ho, hk]
    | some o => simp [hr, get?_put]
  · simp [hr]

theorem Evolves.get (s : MemoryStore kind) (now : Timestamp) (key : ObjectKey) :
    s.Evolves (s.get now key).2 := by
  rw [get_eq]
  cases s.raceArmed
  · exact .refl s
  · cases s.objects.get? key with
    | none => exact .of_objects_eq rfl rfl
    | some o =>
      have h : s.Evolves { s with raceArmed := false } := .of_objects_eq rfl rfl
      exact h.trans (.put _ now key o)

theorem Consistent.get (h : s.Consistent) (now : Timestamp) (key : ObjectKey) :
    (s.get now key).2.Consistent := by
  rw [get_eq]
  cases s.raceArmed
  · exact h
  · cases hk : s.objects.get? key with
    | none => exact h.of_objects_eq rfl rfl
    | some o =>
      have hc : Consistent { s with raceArmed := false } := h.of_objects_eq rfl rfl
      exact hc.put now (h.filed hk)

theorem Evolves.create (s : MemoryStore kind) (now : Timestamp) (o : kind.Object) :
    s.Evolves (s.create now o).2 := by
  rcases s.create_cases now o with ⟨-, h⟩ | ⟨e, h⟩ <;> rw [h]
  · exact .write s now o
  · exact .refl s

theorem Evolves.replace (s : MemoryStore kind) (now : Timestamp) (o : kind.Object) :
    s.Evolves (s.replace now o).2 := by
  rcases s.replace_cases now o with ⟨before, -, -, h⟩ | ⟨e, h⟩ <;> rw [h]
  · exact .write s now o
  · exact .refl s

theorem Consistent.create (h : s.Consistent) (now : Timestamp) (o : kind.Object) :
    (s.create now o).2.Consistent := by
  rcases s.create_cases now o with ⟨-, hs⟩ | ⟨e, hs⟩ <;> rw [hs]
  · exact h.write now o
  · exact h

theorem Consistent.replace (h : s.Consistent) (now : Timestamp) (o : kind.Object) :
    (s.replace now o).2.Consistent := by
  rcases s.replace_cases now o with ⟨before, -, -, hs⟩ | ⟨e, hs⟩ <;> rw [hs]
  · exact h.write now o
  · exact h

end MemoryStore

namespace Cluster

/-- The object of a kind that is stored under a key. -/
def stored? (c : Cluster) (kind : Kind) (key : ObjectKey) : Option kind.Object :=
  (c.store kind).objects.get? key

/-- In every store, objects are under their own keys, and versions tell them apart. -/
def Consistent (c : Cluster) : Prop := ∀ kind, (c.store kind).Consistent

/-- `d` may come from `c`, store by store. -/
def Evolves (c d : Cluster) : Prop := ∀ kind, (c.store kind).Evolves (d.store kind)

theorem Evolves.refl (c : Cluster) : c.Evolves c := fun kind => .refl (c.store kind)

theorem Evolves.trans {c d e : Cluster} (h₁ : c.Evolves d) (h₂ : d.Evolves e) :
    c.Evolves e :=
  fun kind => (h₁ kind).trans (h₂ kind)

theorem Consistent.setStore {c : Cluster} (h : c.Consistent) {kind : Kind}
    {s : MemoryStore kind} (hs : s.Consistent) : (c.setStore kind s).Consistent := by
  intro other
  by_cases ho : other = kind
  · subst ho
    rwa [store_setStore_self]
  · rw [store_setStore_of_ne c s ho]
    exact h other

theorem Evolves.setStore {c : Cluster} {kind : Kind} {s : MemoryStore kind}
    (hs : (c.store kind).Evolves s) : c.Evolves (c.setStore kind s) := by
  intro other
  by_cases ho : other = kind
  · subst ho
    rwa [store_setStore_self]
  · rw [store_setStore_of_ne c s ho]
    exact .refl _

@[simp] theorem setStore_store (c : Cluster) (kind : Kind) :
    c.setStore kind (c.store kind) = c := by
  have h : (fun k => if h : k = kind then h ▸ c.store kind else c.store k) = c.store := by
    funext k
    by_cases hk : k = kind
    · subst hk
      simp
    · simp [hk]
  unfold setStore
  rw [h]

/-- A call either takes a queued failure or is performed. -/
theorem answer_cases (now : Timestamp) (call : Call) (c : Cluster) :
    (∃ f, c.nextFailure? call = some f ∧
      answer now call c = (.error (.api f.error), { c with failures := c.failures.erase f })) ∨
    (c.nextFailure? call = none ∧ answer now call c = c.perform now call) := by
  unfold answer
  cases c.nextFailure? call with
  | some f => exact Or.inl ⟨f, rfl, rfl⟩
  | none => exact Or.inr ⟨rfl, rfl⟩

theorem answer_of_none {now : Timestamp} {call : Call} {c : Cluster}
    (h : c.nextFailure? call = none) : answer now call c = c.perform now call := by
  simp [answer, h]

theorem nextFailure?_of_unqueued {c : Cluster} (h : c.failures = []) (call : Call) :
    c.nextFailure? call = none := by
  rw [nextFailure?, h]
  rfl

theorem perform_get (c : Cluster) (now : Timestamp) (kind : Kind) (key : ObjectKey) :
    c.perform now (.get kind key) =
      (.ok ((c.store kind).get now key).1, c.setStore kind ((c.store kind).get now key).2) :=
  rfl

theorem perform_create (c : Cluster) (now : Timestamp) (kind : Kind) (o : kind.Object) :
    c.perform now (.create kind o) =
      (((c.store kind).create now o).1, c.setStore kind ((c.store kind).create now o).2) :=
  rfl

theorem perform_replace (c : Cluster) (now : Timestamp) (kind : Kind) (o : kind.Object) :
    c.perform now (.replace kind o) =
      (((c.store kind).replace now o).1, c.setStore kind ((c.store kind).replace now o).2) :=
  rfl

theorem Consistent.perform {c : Cluster} (h : c.Consistent) (now : Timestamp) (call : Call) :
    (c.perform now call).2.Consistent := by
  cases call with
  | get kind key => exact h.setStore (MemoryStore.Consistent.get (h kind) now key)
  | create kind o => exact h.setStore (MemoryStore.Consistent.create (h kind) now o)
  | replace kind o => exact h.setStore (MemoryStore.Consistent.replace (h kind) now o)

theorem Evolves.perform (c : Cluster) (now : Timestamp) (call : Call) :
    c.Evolves (c.perform now call).2 := by
  cases call with
  | get kind key => exact Evolves.setStore (MemoryStore.Evolves.get (c.store kind) now key)
  | create kind o => exact Evolves.setStore (MemoryStore.Evolves.create (c.store kind) now o)
  | replace kind o => exact Evolves.setStore (MemoryStore.Evolves.replace (c.store kind) now o)

/-- A call keeps the stores consistent, also if it fails. -/
theorem Consistent.answer {c : Cluster} (h : c.Consistent) (now : Timestamp) (call : Call) :
    (Cluster.answer now call c).2.Consistent := by
  rcases answer_cases now call c with ⟨f, -, hc⟩ | ⟨-, hc⟩ <;> rw [hc]
  · exact h
  · exact h.perform now call

/-- What is stored after a call was stored before, or is newer. -/
theorem Evolves.answer (c : Cluster) (now : Timestamp) (call : Call) :
    c.Evolves (Cluster.answer now call c).2 := by
  rcases answer_cases now call c with ⟨f, -, hc⟩ | ⟨-, hc⟩ <;> rw [hc]
  · exact .refl c
  · exact .perform c now call

theorem stored?_setStore_self (c : Cluster) (kind : Kind) (s : MemoryStore kind)
    (key : ObjectKey) : (c.setStore kind s).stored? kind key = s.objects.get? key := by
  rw [stored?, store_setStore_self]

theorem stored?_setStore_of_ne (c : Cluster) {kind other : Kind} (s : MemoryStore kind)
    (h : other ≠ kind) (key : ObjectKey) :
    (c.setStore kind s).stored? other key = c.stored? other key := by
  rw [stored?, store_setStore_of_ne c s h, stored?]

/-- What a successful `get` answers is stored. -/
theorem answer_get_ok {now : Timestamp} {kind : Kind} {key : ObjectKey} {c : Cluster}
    {found : Option kind.Object} (h : (answer now (.get kind key) c).1 = .ok found) :
    c.stored? kind key = found ∧
      (answer now (.get kind key) c).2 = c.setStore kind ((c.store kind).get now key).2 := by
  rcases answer_cases now (.get kind key) c with ⟨f, -, hc⟩ | ⟨-, hc⟩
  · rw [hc] at h
    cases h
  · rw [hc, perform_get] at h ⊢
    rw [MemoryStore.get_fst] at h
    exact ⟨Except.ok.inj h, rfl⟩

/-- A successful creation fills a free place. -/
theorem answer_create_ok {now : Timestamp} {kind : Kind} {o stored : kind.Object}
    {c : Cluster} (h : (answer now (.create kind o) c).1 = .ok stored) :
    c.stored? kind (kind.key o) = none ∧
      stored = kind.stamp o ((c.store kind).versions + 1) now ∧
      (answer now (.create kind o) c).2 = c.setStore kind ((c.store kind).write now o) := by
  rcases answer_cases now (.create kind o) c with ⟨f, -, hc⟩ | ⟨-, hc⟩
  · rw [hc] at h
    cases h
  · rw [hc, perform_create] at h ⊢
    rcases (c.store kind).create_cases now o with ⟨hfree, hs⟩ | ⟨e, hs⟩ <;> rw [hs] at h ⊢
    · exact ⟨hfree, (Except.ok.inj h).symm, rfl⟩
    · cases h

/-- A successful replacement takes the place of an object with its version. -/
theorem answer_replace_ok {now : Timestamp} {kind : Kind} {o stored : kind.Object}
    {c : Cluster} (h : (answer now (.replace kind o) c).1 = .ok stored) :
    (∃ before, c.stored? kind (kind.key o) = some before ∧
      (kind.metadata before).resourceVersion = (kind.metadata o).resourceVersion) ∧
      stored = kind.stamp o ((c.store kind).versions + 1) now ∧
      (answer now (.replace kind o) c).2 = c.setStore kind ((c.store kind).write now o) := by
  rcases answer_cases now (.replace kind o) c with ⟨f, -, hc⟩ | ⟨-, hc⟩
  · rw [hc] at h
    cases h
  · rw [hc, perform_replace] at h ⊢
    rcases (c.store kind).replace_cases now o with ⟨before, hbefore, hv, hs⟩ | ⟨e, hs⟩ <;>
      rw [hs] at h ⊢
    · exact ⟨⟨before, hbefore, hv⟩, (Except.ok.inj h).symm, rfl⟩
    · cases h

theorem answer_create_of_unqueued {c : Cluster} (h : c.failures = []) (now : Timestamp)
    {kind : Kind} {o : kind.Object} (hfree : c.stored? kind (kind.key o) = none) :
    answer now (.create kind o) c =
      (.ok (kind.stamp o ((c.store kind).versions + 1) now),
        c.setStore kind ((c.store kind).write now o)) := by
  rw [answer_of_none (nextFailure?_of_unqueued h _), perform_create,
    MemoryStore.create_of_free now hfree]

theorem answer_replace_of_unqueued {c : Cluster} (h : c.failures = []) (now : Timestamp)
    {kind : Kind} {before o : kind.Object} (hstored : c.stored? kind (kind.key o) = some before)
    (hversion : (kind.metadata before).resourceVersion = (kind.metadata o).resourceVersion) :
    answer now (.replace kind o) c =
      (.ok (kind.stamp o ((c.store kind).versions + 1) now),
        c.setStore kind ((c.store kind).write now o)) := by
  rw [answer_of_none (nextFailure?_of_unqueued h _), perform_replace,
    MemoryStore.replace_of_version now hstored hversion]

/-- A call that fails changes no store. -/
theorem answer_error {now : Timestamp} {call : Call} {c : Cluster} {e : StoreError}
    (h : (answer now call c).1 = .error e) (kind : Kind) :
    (answer now call c).2.store kind = c.store kind := by
  rcases answer_cases now call c with ⟨f, -, hc⟩ | ⟨-, hc⟩
  · rw [hc]
  rw [hc] at h ⊢
  cases call with
  | get k key => cases h
  | create k o =>
    rw [perform_create] at h ⊢
    rcases (c.store k).create_cases now o with ⟨-, hs⟩ | ⟨f, hs⟩ <;> rw [hs] at h ⊢
    · cases h
    · rw [setStore_store]
  | replace k o =>
    rw [perform_replace] at h ⊢
    rcases (c.store k).replace_cases now o with ⟨before, -, -, hs⟩ | ⟨f, hs⟩ <;> rw [hs] at h ⊢
    · cases h
    · rw [setStore_store]

end Cluster

namespace Call

/-- The call puts this object down. -/
def Writes (call : Call) (kind : Kind) (o : kind.Object) : Prop :=
  call = .create kind o ∨ call = .replace kind o

end Call

namespace Cluster

/-- A write that is accepted leaves the stamped object under its key. -/
theorem answer_write_ok {now : Timestamp} {call : Call} {c : Cluster} {kind : Kind}
    {o : kind.Object} (hw : call.Writes kind o) {stored : call.Answer}
    (h : (answer now call c).1 = .ok stored) :
    (answer now call c).2 = c.setStore kind ((c.store kind).write now o) := by
  rcases hw with rfl | rfl
  · exact (answer_create_ok h).2.2
  · exact (answer_replace_ok h).2.2

/-- A write is seen under its own key only. -/
theorem stored?_write (c : Cluster) (now : Timestamp) {k : Kind} (o : k.Object) (kind : Kind)
    (key : ObjectKey) :
    (c.setStore k ((c.store k).write now o)).stored? kind key = c.stored? kind key ∨
    ∃ h : kind = k, k.key o = key ∧
      (c.setStore k ((c.store k).write now o)).stored? kind key =
        some (h ▸ k.stamp o ((c.store k).versions + 1) now) := by
  by_cases hk : kind = k
  · subst hk
    rw [stored?_setStore_self, MemoryStore.get?_write]
    by_cases ho : key = kind.key o
    · exact Or.inr ⟨rfl, ho.symm, by rw [if_pos ho]⟩
    · exact Or.inl (by rw [if_neg ho, stored?])
  · exact Or.inl (stored?_setStore_of_ne c _ hk key)

/-- Every way in which a call may change what is stored under a key: it writes there,
or it reads there while a race is armed. -/
theorem stored?_answer (now : Timestamp) (call : Call) (c : Cluster) (kind : Kind)
    (key : ObjectKey) :
    (answer now call c).2.stored? kind key = c.stored? kind key ∨
    (∃ o stored, call.Writes kind o ∧ kind.key o = key ∧ (answer now call c).1 = .ok stored ∧
      (answer now call c).2.stored? kind key =
        some (kind.stamp o ((c.store kind).versions + 1) now)) ∨
    (∃ o, call = .get kind key ∧ (c.store kind).raceArmed = true ∧
      c.stored? kind key = some o ∧
      (answer now call c).2.stored? kind key =
        some (kind.stamp o ((c.store kind).versions + 1) now)) := by
  cases hr : (answer now call c).1 with
  | error e => exact Or.inl (by rw [stored?, answer_error hr, stored?])
  | ok stored =>
    cases call with
    | get k other =>
      rw [(answer_get_ok hr).2]
      by_cases hk : kind = k
      · subst hk
        rw [stored?_setStore_self, MemoryStore.get?_get]
        by_cases ho : (c.store kind).raceArmed ∧ key = other
        · obtain ⟨harmed, rfl⟩ := ho
          rw [if_pos ⟨harmed, rfl⟩]
          cases hs : (c.store kind).objects.get? key with
          | none => exact Or.inl hs.symm
          | some o => exact Or.inr (Or.inr ⟨o, rfl, harmed, hs, rfl⟩)
        · exact Or.inl (by rw [if_neg ho, stored?])
      · exact Or.inl (stored?_setStore_of_ne c _ hk key)
    | create k o =>
      rw [answer_write_ok (Or.inl rfl) hr]
      rcases c.stored?_write now o kind key with h | ⟨rfl, hkey, h⟩
      · exact Or.inl h
      · exact Or.inr (Or.inl ⟨o, stored, Or.inl rfl, hkey, rfl, h⟩)
    | replace k o =>
      rw [answer_write_ok (Or.inr rfl) hr]
      rcases c.stored?_write now o kind key with h | ⟨rfl, hkey, h⟩
      · exact Or.inl h
      · exact Or.inr (Or.inl ⟨o, stored, Or.inr rfl, hkey, rfl, h⟩)

end Cluster

end SqlOperator
