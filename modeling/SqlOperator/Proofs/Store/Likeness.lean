import SqlOperator.Proofs.Store.Interleaving
import SqlOperator.Proofs.Upsert.Stages

/-!
# Clusters that are alike

Two clusters are compared object by object. A likeness says which objects count as alike;
it may let their contents differ, but not their metadata. Whatever happens to two clusters
that are alike, they stay alike: stores look at metadata only, and so they answer calls with
alike objects by alike answers.
-/

namespace SqlOperator

/-- Both are values that are related, or one and the same error. -/
inductive Paired {ε α β : Type} (R : α → β → Prop) : Except ε α → Except ε β → Prop where
  | ok {a : α} {b : β} : R a b → Paired R (.ok a) (.ok b)
  | error (e : ε) : Paired R (.error e) (.error e)

namespace Paired

variable {ε ε' α β γ δ : Type} {R : α → β → Prop} {S : γ → δ → Prop} {x : Except ε α}
  {y : Except ε β}

theorem refl (x : Except ε α) {R : α → α → Prop} (h : ∀ a, x = .ok a → R a a) :
    Paired R x x := by
  cases x with
  | ok a => exact .ok (h a rfl)
  | error e => exact .error e

theorem eq_of_eq {x y : Except ε α} (h : Paired Eq x y) : x = y := by
  cases h with
  | ok hab => rw [hab]
  | error e => rfl

theorem map (h : Paired R x y) {f : α → γ} {g : β → δ} (hfg : ∀ a b, R a b → S (f a) (g b)) :
    Paired S (x.map f) (y.map g) := by
  cases h with
  | ok hab => exact .ok (hfg _ _ hab)
  | error e => exact .error e

theorem imp {S : α → β → Prop} (h : Paired R x y) (hRS : ∀ a b, R a b → S a b) :
    Paired S x y := by
  cases h with
  | ok hab => exact .ok (hRS _ _ hab)
  | error e => exact .error e

/-- The values that are related are the ones that there are. -/
theorem values (h : Paired R x y) : Paired (fun a b => x = .ok a ∧ y = .ok b) x y := by
  cases h with
  | ok _ => exact .ok ⟨rfl, rfl⟩
  | error e => exact .error e

theorem mapError (h : Paired R x y) (f : ε → ε') : Paired R (x.mapError f) (y.mapError f) := by
  cases h with
  | ok hab => exact .ok hab
  | error e => exact .error (f e)

theorem bind_refl (x : Except ε α) {f : α → Except ε γ} {g : α → Except ε δ}
    (hfg : ∀ a, Paired S (f a) (g a)) : Paired S (x >>= f) (x >>= g) := by
  cases x with
  | ok a => exact hfg a
  | error e => exact .error e

theorem bind (h : Paired R x y) {f : α → Except ε γ} {g : β → Except ε δ}
    (hfg : ∀ a b, R a b → Paired S (f a) (g b)) : Paired S (x >>= f) (y >>= g) := by
  cases h with
  | ok hab => exact hfg _ _ hab
  | error e => exact .error e

end Paired

/-- Which objects count as alike: every object is like itself, and those that are alike have
one metadata, in whose place another one may be put. -/
structure Likeness where
  Like : (kind : Kind) → kind.Object → kind.Object → Prop
  refl : ∀ {kind : Kind} (o : kind.Object), Like kind o o
  metadata_eq : ∀ {kind : Kind} {o p : kind.Object}, Like kind o p →
    kind.metadata p = kind.metadata o
  withMetadata : ∀ {kind : Kind} {o p : kind.Object}, Like kind o p → ∀ m,
    Like kind (kind.withMetadata o m) (kind.withMetadata p m)

namespace Likeness

variable (L : Likeness) {kind : Kind} {o p : kind.Object}

/-- What is found in two clusters is alike: objects, or nothing. -/
def Found (kind : Kind) : Option kind.Object → Option kind.Object → Prop :=
  Option.Rel (L.Like kind)

/-- The stores hold alike objects, and are otherwise equal. -/
structure Stores (s t : MemoryStore kind) : Prop where
  objects : ∀ key, L.Found kind (s.objects.get? key) (t.objects.get? key)
  versions : t.versions = s.versions
  writes : t.writes = s.writes
  raceArmed : t.raceArmed = s.raceArmed

/-- The stores are alike, and the same failures are queued. -/
structure Clusters (c d : Cluster) : Prop where
  stores : ∀ kind, L.Stores (c.store kind) (d.store kind)
  failures : d.failures = c.failures

variable {L}

theorem found_refl (x : Option kind.Object) : L.Found kind x x := by
  cases x with
  | none => exact .none
  | some o => exact .some (L.refl o)

theorem Found.rel {x y : Option kind.Object} (h : L.Found kind x y)
    {R : kind.Object → kind.Object → Prop} (hR : ∀ o p, L.Like kind o p → R o p) :
    Option.Rel R x y := by
  cases h with
  | none => exact .none
  | some hop => exact .some (hR _ _ hop)

theorem clusters_refl (c : Cluster) : L.Clusters c c :=
  ⟨fun _ => ⟨fun _ => found_refl _, rfl, rfl, rfl⟩, rfl⟩

theorem key_eq (h : L.Like kind o p) : kind.key p = kind.key o := by
  rw [Kind.key, L.metadata_eq h, Kind.key]

theorem stamp (h : L.Like kind o p) (version : Nat) (now : Timestamp) :
    L.Like kind (kind.stamp o version now) (kind.stamp p version now) := by
  rw [Kind.stamp, Kind.stamp, L.metadata_eq h]
  exact L.withMetadata h _

theorem touch (h : L.Like kind o p) (now : Timestamp) :
    L.Like kind (kind.touch o now) (kind.touch p now) := by
  rw [Kind.touch, Kind.touch, L.metadata_eq h]
  exact L.withMetadata h _

namespace Stores

variable {s t : MemoryStore kind} {key : ObjectKey} {now : Timestamp}

theorem put (h : L.Stores s t) (hop : L.Like kind o p) (now : Timestamp) (key : ObjectKey) :
    L.Stores (s.put now key o).2 (t.put now key p).2 := by
  refine ⟨fun other => ?_, congrArg (· + 1) h.versions, h.writes, h.raceArmed⟩
  rw [MemoryStore.get?_put, MemoryStore.get?_put, h.versions]
  by_cases ho : other = key
  · rw [if_pos ho, if_pos ho]
    exact .some (stamp hop _ now)
  · rw [if_neg ho, if_neg ho]
    exact h.objects other

theorem write (h : L.Stores s t) (hop : L.Like kind o p) (now : Timestamp) :
    L.Stores (s.write now o) (t.write now p) := by
  rw [MemoryStore.write, MemoryStore.write, key_eq hop]
  obtain ⟨hobjects, hversions, -, hraceArmed⟩ := h.put hop now (kind.key o)
  exact ⟨hobjects, hversions, congrArg (· + 1) h.writes, hraceArmed⟩

/-- A race is set off, or not, in both stores. -/
theorem get (h : L.Stores s t) (now : Timestamp) (key : ObjectKey) :
    L.Stores (s.get now key).2 (t.get now key).2 := by
  rw [MemoryStore.get_eq, MemoryStore.get_eq, h.raceArmed]
  cases s.raceArmed with
  | false => exact h
  | true =>
    have hdisarmed : L.Stores { s with raceArmed := false } { t with raceArmed := false } :=
      ⟨h.objects, h.versions, h.writes, rfl⟩
    have hfound := h.objects key
    revert hfound
    cases s.objects.get? key <;> cases t.objects.get? key <;> intro hfound
    · exact hdisarmed
    · cases hfound
    · cases hfound
    · cases hfound with
      | some hop => exact hdisarmed.put hop now key

theorem isSome_eq (h : L.Stores s t) (key : ObjectKey) :
    (t.objects.get? key).isSome = (s.objects.get? key).isSome := by
  have hfound := h.objects key
  revert hfound
  cases s.objects.get? key <;> cases t.objects.get? key <;> intro hfound
  · rfl
  · cases hfound
  · cases hfound
  · rfl

/-- Both objects are stored with the next version, which is the same one. -/
theorem stamp_write (h : L.Stores s t) (hop : L.Like kind o p) (now : Timestamp) :
    Paired (L.Like kind)
        (.ok (kind.stamp o (s.versions + 1) now) : Except StoreError kind.Object)
        (.ok (kind.stamp p (t.versions + 1) now)) ∧
      L.Stores (s.write now o) (t.write now p) :=
  ⟨.ok (h.versions ▸ stamp hop _ now), h.write hop now⟩

theorem create (h : L.Stores s t) (hop : L.Like kind o p) (now : Timestamp) :
    Paired (L.Like kind) (s.create now o).1 (t.create now p).1 ∧
      L.Stores (s.create now o).2 (t.create now p).2 := by
  rw [MemoryStore.create_eq, MemoryStore.create_eq, key_eq hop, h.isSome_eq]
  cases (s.objects.get? (kind.key o)).isSome with
  | true => exact ⟨.error _, h⟩
  | false => exact h.stamp_write hop now

theorem replace (h : L.Stores s t) (hop : L.Like kind o p) (now : Timestamp) :
    Paired (L.Like kind) (s.replace now o).1 (t.replace now p).1 ∧
      L.Stores (s.replace now o).2 (t.replace now p).2 := by
  rw [MemoryStore.replace_eq, MemoryStore.replace_eq, key_eq hop, L.metadata_eq hop]
  have hfound := h.objects (kind.key o)
  revert hfound
  cases s.objects.get? (kind.key o) <;> cases t.objects.get? (kind.key o) <;> intro hfound
  · exact ⟨.error _, h⟩
  · cases hfound
  · cases hfound
  · cases hfound with
    | some hbefore =>
      dsimp only
      rw [L.metadata_eq hbefore]
      split
      · exact ⟨.error _, h⟩
      · exact h.stamp_write hop now

theorem renew (h : L.Stores s t) (now : Timestamp) (key : ObjectKey) :
    L.Stores (s.renew now key) (t.renew now key) := by
  have hfound := h.objects key
  unfold MemoryStore.renew
  revert hfound
  cases s.objects.get? key <;> cases t.objects.get? key <;> intro hfound
  · exact h
  · cases hfound
  · cases hfound
  · cases hfound with
    | some hop => exact h.put hop now key

/-- Where only equal objects are alike, the stores are equal. -/
theorem eq_of_found (h : L.Stores s t) (heq : ∀ x y, L.Found kind x y → x = y) : t = s := by
  have hobjects : s.objects = t.objects := SortedMap.ext_get? fun key => heq _ _ (h.objects key)
  obtain ⟨-, hversions, hwrites, hraceArmed⟩ := h
  cases s
  cases t
  exact MemoryStore.mk.injEq .. ▸ ⟨hobjects.symm, hversions, hwrites, hraceArmed⟩

theorem remove (h : L.Stores s t) (key : ObjectKey) :
    L.Stores (s.remove key) (t.remove key) := by
  refine ⟨fun other => ?_, h.versions, h.writes, h.raceArmed⟩
  rw [MemoryStore.get?_remove, MemoryStore.get?_remove]
  by_cases ho : other = key
  · rw [if_pos ho, if_pos ho]
    exact .none
  · rw [if_neg ho, if_neg ho]
    exact h.objects other

end Stores

namespace Clusters

variable {c d : Cluster}

theorem setStore (h : L.Clusters c d) {s t : MemoryStore kind} (hst : L.Stores s t) :
    L.Clusters (c.setStore kind s) (d.setStore kind t) := by
  refine ⟨fun other => ?_, h.failures⟩
  by_cases ho : other = kind
  · subst ho
    rw [Cluster.store_setStore_self, Cluster.store_setStore_self]
    exact hst
  · rw [Cluster.store_setStore_of_ne c s ho, Cluster.store_setStore_of_ne d t ho]
    exact h.stores other

/-- Others do the same to both clusters. -/
theorem apply (h : L.Clusters c d) (act : Intervention) :
    L.Clusters (act.apply c) (act.apply d) := by
  cases act with
  | insert kind object now => exact h.setStore ((h.stores kind).put (L.refl object) now _)
  | renew kind key now => exact h.setStore ((h.stores kind).renew now key)
  | remove kind key => exact h.setStore ((h.stores kind).remove key)
  | armRace kind =>
    obtain ⟨hobjects, hversions, hwrites, -⟩ := h.stores kind
    exact h.setStore ⟨hobjects, hversions, hwrites, rfl⟩
  | fail failure => exact ⟨h.stores, congrArg (· ++ [failure]) h.failures⟩

/-- Calls for which the same failure is queued, if any, and which would otherwise be
performed alike, are answered alike. -/
theorem answer (h : L.Clusters c d) (call call' : Call) {R : call.Answer → call'.Answer → Prop}
    (hkind : call'.kind = call.kind) (hverb : call'.verb = call.verb)
    (now : Timestamp)
    (hperform : Paired R (c.perform now call).1 (d.perform now call').1 ∧
      L.Clusters (c.perform now call).2 (d.perform now call').2) :
    Paired R (Cluster.answer now call c).1 (Cluster.answer now call' d).1 ∧
      L.Clusters (Cluster.answer now call c).2 (Cluster.answer now call' d).2 := by
  have hnext : d.nextFailure? call' = c.nextFailure? call := by
    rw [Cluster.nextFailure?, Cluster.nextFailure?, h.failures, hkind, hverb]
  unfold Cluster.answer
  rw [hnext]
  cases c.nextFailure? call with
  | none => exact hperform
  | some failure => exact ⟨.error _, h.stores, congrArg (·.erase failure) h.failures⟩

theorem answer_get (h : L.Clusters c d) (now : Timestamp) (kind : Kind) (key : ObjectKey) :
    Paired (L.Found kind) (Cluster.answer now (.get kind key) c).1
        (Cluster.answer now (.get kind key) d).1 ∧
      L.Clusters (Cluster.answer now (.get kind key) c).2
        (Cluster.answer now (.get kind key) d).2 := by
  have hfound : L.Found kind ((c.store kind).get now key).1 ((d.store kind).get now key).1 := by
    rw [MemoryStore.get_fst, MemoryStore.get_fst]
    exact (h.stores kind).objects key
  have hstore := h.setStore ((h.stores kind).get now key)
  exact h.answer (.get kind key) (.get kind key) rfl rfl now ⟨.ok hfound, hstore⟩

theorem answer_create (h : L.Clusters c d) (hop : L.Like kind o p) (now : Timestamp) :
    Paired (L.Like kind) (Cluster.answer now (.create kind o) c).1
        (Cluster.answer now (.create kind p) d).1 ∧
      L.Clusters (Cluster.answer now (.create kind o) c).2
        (Cluster.answer now (.create kind p) d).2 := by
  obtain ⟨hanswer, hstore⟩ := (h.stores kind).create hop now
  exact h.answer (.create kind o) (.create kind p) rfl rfl now
    ⟨hanswer, h.setStore hstore⟩

theorem answer_replace (h : L.Clusters c d) (hop : L.Like kind o p) (now : Timestamp) :
    Paired (L.Like kind) (Cluster.answer now (.replace kind o) c).1
        (Cluster.answer now (.replace kind p) d).1 ∧
      L.Clusters (Cluster.answer now (.replace kind o) c).2
        (Cluster.answer now (.replace kind p) d).2 := by
  obtain ⟨hanswer, hstore⟩ := (h.stores kind).replace hop now
  exact h.answer (.replace kind o) (.replace kind p) rfl rfl now
    ⟨hanswer, h.setStore hstore⟩

end Clusters

end Likeness

end SqlOperator
