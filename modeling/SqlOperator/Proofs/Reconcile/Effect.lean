import SqlOperator.Proofs.Reconcile.Alone

/-!
# What a lone reconcile does to a cluster

In a quiet cluster a reconcile comes to a result and puts down one object at most, that of
its own target. Both are a function of the sources and of this target: whatever else is
stored, and whenever the reconcile comes, is no matter for it.
-/

namespace SqlOperator

namespace MemoryStore

variable {kind : Kind} {s t : MemoryStore kind} {key : ObjectKey} {mutate : Mutation kind}

/-- What an upsert in one step has to put down, before the note of its time. -/
def toWrite (s : MemoryStore kind) (key : ObjectKey) (mutate : Mutation kind) :
    Option kind.Object :=
  match mutate.shape key (s.objects.get? key) with
  | .ok desired => if s.objects.get? key = some desired then none else some desired
  | .error _ => none

/-- Put an object down, if there is one. -/
def write? (s : MemoryStore kind) (now : Timestamp) : Option kind.Object → MemoryStore kind
  | some o => s.write now (kind.touch o now)
  | none => s

/-- An upsert in one step writes what the mutation makes of the target, if anything. -/
theorem snd_upsert (s : MemoryStore kind) (now : Timestamp) (key : ObjectKey)
    (mutate : Mutation kind) :
    (s.upsert now now key mutate).2 = s.write? now (s.toWrite key mutate) := by
  unfold upsert toWrite Mutation.shape
  cases s.objects.get? key with
  | none =>
    cases h : mutate (kind.blank key) .new with
    | error failure => simp [write?]
    | ok desired => simp [write?]
  | some current =>
    cases h : mutate current .existing with
    | error failure => simp [h, write?]
    | ok desired =>
      by_cases hd : desired = current
      · simp [h, hd, write?]
      · simp [h, hd, Ne.symm hd, write?]

/-- What an upsert comes to depends on what it finds alone, not on its time. -/
theorem fst_upsert_congr (h : t.objects.get? key = s.objects.get? key) (now now' : Timestamp) :
    (t.upsert now' now' key mutate).1 = (s.upsert now now key mutate).1 := by
  unfold upsert
  rw [h]
  cases s.objects.get? key with
  | none => cases h : mutate (kind.blank key) .new <;> simp
  | some current =>
    cases h : mutate current .existing with
    | error failure => simp [h]
    | ok desired => by_cases hd : desired = current <;> simp [h, hd]

theorem toWrite_congr (h : t.objects.get? key = s.objects.get? key) :
    t.toWrite key mutate = s.toWrite key mutate := by
  unfold toWrite
  rw [h]

/-- What is put down has the key that it is put down for. -/
theorem key_of_toWrite {owner : OwnerReference} {source : Metadata} {o : kind.Object}
    (hs : s.Consistent) (hm : mutate.ClaimsFor owner source)
    (h : s.toWrite key mutate = some o) : kind.key o = key := by
  unfold toWrite at h
  cases hshape : mutate.shape key (s.objects.get? key) with
  | error failure =>
    rw [hshape] at h
    cases h
  | ok desired =>
    rw [hshape] at h
    obtain ⟨-, ho⟩ := Option.ite_none_left_eq_some.mp h
    obtain rfl := Option.some.inj ho
    exact (key_eq_and_belongsTo_of_shape hs hm hshape).1

end MemoryStore

namespace Cluster

variable {c : Cluster} {kind : Kind} {now : Timestamp} {w : Option kind.Object}

/-- Put an object of a kind down, if there is one. -/
def write? (c : Cluster) (now : Timestamp) (kind : Kind) (w : Option kind.Object) : Cluster :=
  c.setStore kind ((c.store kind).write? now w)

theorem store_write?_of_ne {other : Kind} (h : other ≠ kind) :
    (c.write? now kind w).store other = c.store other := store_setStore_of_ne c _ h

/-- What is stored under other keys stays. -/
theorem stored?_write?_of_ne {key : ObjectKey} (h : ∀ o, w = some o → kind.key o ≠ key) :
    (c.write? now kind w).stored? kind key = c.stored? kind key := by
  rw [write?, stored?_setStore_self]
  cases w with
  | none => rfl
  | some o =>
    have hkey : key ≠ kind.key (kind.touch o now) := fun he => h o rfl (by rw [he, Kind.key_touch])
    rw [MemoryStore.write?, MemoryStore.get?_write, if_neg hkey, stored?]

theorem Consistent.write? (h : c.Consistent) : (c.write? now kind w).Consistent := by
  refine h.setStore ?_
  cases w with
  | none => exact h kind
  | some o => exact (h kind).write now _

theorem Quiet.write? (h : c.Quiet) : (c.write? now kind w).Quiet := by
  refine ⟨h.unqueued, fun other => ?_⟩
  by_cases ho : other = kind
  · subst ho
    rw [Cluster.write?, store_setStore_self]
    cases w with
    | none => exact h.unarmed other
    | some o => exact h.unarmed other
  · rw [store_write?_of_ne ho]
    exact h.unarmed other

end Cluster

namespace Source

variable {s : Source} {mount : MountSettings} {draw draw' : Draw} {key : ObjectKey}
  {c d : Cluster} {seed : PasswordSeed}

theorem kind_ne_target (source s : Source) : source.kind ≠ s.target := by
  cases source <;> cases s <;> decide

/-- The key of the target of a source that is stored and names one. -/
def targetIn (s : Source) (key : ObjectKey) (c : Cluster) : Option ObjectKey :=
  (c.stored? s.kind key).bind (s.targetKey? key.namespace)

/-- What a lone reconcile has to put down, before the note of its time. -/
def writtenIn (s : Source) (mount : MountSettings) (seed : PasswordSeed) (key : ObjectKey)
    (c : Cluster) : Option s.target.Object :=
  match s.planIn mount key c seed with
  | .ok p => (c.store s.target).toWrite p.target p.mutate
  | .error _ => none

/-- A lone reconcile answers by its result and puts down what it has to. -/
theorem run_reconcile_alone (s : Source) (mount : MountSettings) (draw : Draw)
    (key : ObjectKey) (hq : c.Quiet) (hc : c.Consistent) :
    let r := (s.reconcile mount draw key).run (Cluster.answer draw.now) c
    r.value = Action.ofResult (s.resultIn mount draw key c) ∧
      r.state = c.write? draw.now s.target (s.writtenIn mount draw.seed key c) := by
  intro r
  obtain ⟨hcomes, -, hstate⟩ :=
    comesTo_run_reconcile s mount draw key (Cluster.answer draw.now) c
  obtain ⟨hvalue, hcourse, -⟩ := run_task_alone s mount draw key hq hc
  refine ⟨hcomes.answered.trans (congrArg _ hvalue), hstate.trans ?_⟩
  rw [writtenIn, Cluster.write?]
  cases hplan : s.planIn mount key c draw.seed with
  | error failure =>
    rw [hplan] at hcourse
    exact hcourse.trans (c.setStore_store s.target).symm
  | ok p =>
    rw [hplan] at hcourse
    dsimp only
    rw [← MemoryStore.snd_upsert]
    exact hcourse

theorem targetIn_of_planIn (hq : c.Quiet) {p : Plan s.target}
    (h : s.planIn mount key c seed = .ok p) : s.targetIn key c = some p.target := by
  obtain ⟨x, hx, htarget, -⟩ := inputs_of_planIn hq h
  rw [targetIn, hx]
  exact htarget

/-- What is put down is for the target of the source. -/
theorem targetIn_of_writtenIn (hq : c.Quiet) (hc : c.Consistent) {o : s.target.Object}
    (h : s.writtenIn mount seed key c = some o) : s.targetIn key c = some (s.target.key o) := by
  unfold writtenIn at h
  cases hplan : s.planIn mount key c seed with
  | error failure =>
    rw [hplan] at h
    cases h
  | ok p =>
    rw [hplan] at h
    obtain ⟨x, -, -, hshaping⟩ := inputs_of_planIn hq hplan
    rw [MemoryStore.key_of_toWrite (hc s.target) hshaping.claimsFor h]
    exact targetIn_of_planIn hq hplan

/-- What a reconcile depends on is the same in both clusters: the sources, and its target. -/
structure SeesSame (s : Source) (key : ObjectKey) (c d : Cluster) : Prop where
  sources : ∀ source : Source, d.store source.kind = c.store source.kind
  target : ∀ t, s.targetIn key c = some t → d.stored? s.target t = c.stored? s.target t

theorem SeesSame.refl (s : Source) (key : ObjectKey) (c : Cluster) : s.SeesSame key c c :=
  ⟨fun _ => rfl, fun _ _ => rfl⟩

/-- A plan depends on the sources only. -/
theorem planIn_congr (h : ∀ source : Source, d.store source.kind = c.store source.kind) :
    s.planIn mount key d seed = s.planIn mount key c seed := by
  have hcertificate : d.store .certificate = c.store .certificate := h .certificate
  have hinstance : d.store .sqlInstance = c.store .sqlInstance := h .sqlInstance
  have huser : d.store .user = c.store .user := h .user
  cases s with
  | certificate =>
    simp only [planIn, Cluster.stored?, hcertificate]
    rfl
  | sqlInstance =>
    simp only [planIn, Cluster.stored?, hinstance]
    rfl
  | user =>
    simp only [planIn, Cluster.stored?, huser, hinstance]
    rfl

/-- The result depends on no more of a cluster than what the reconcile sees of it. -/
theorem SeesSame.resultIn_eq (h : s.SeesSame key c d) (hq : c.Quiet)
    (hseed : draw'.seed = draw.seed) :
    s.resultIn mount draw' key d = s.resultIn mount draw key c := by
  unfold resultIn
  rw [hseed, planIn_congr h.sources]
  cases hplan : s.planIn mount key c draw.seed with
  | error failure => rfl
  | ok p => exact MemoryStore.fst_upsert_congr (h.target _ (targetIn_of_planIn hq hplan)) _ _

theorem SeesSame.writtenIn_eq (h : s.SeesSame key c d) (hq : c.Quiet) :
    s.writtenIn mount seed key d = s.writtenIn mount seed key c := by
  unfold writtenIn
  rw [planIn_congr h.sources]
  cases hplan : s.planIn mount key c seed with
  | error failure => rfl
  | ok p => exact MemoryStore.toWrite_congr (h.target _ (targetIn_of_planIn hq hplan))

/-- The targets of two requests, where both have one, are different objects. -/
def Apart (s₁ s₂ : Source) (key₁ key₂ : ObjectKey) (c : Cluster) : Prop :=
  ∀ t₁ t₂, s₁.targetIn key₁ c = some t₁ → s₂.targetIn key₂ c = some t₂ →
    s₁.target = s₂.target → t₁ ≠ t₂

/-- What one reconcile puts down does not matter to another one with another target. -/
theorem Apart.seesSame_write? {s₁ s₂ : Source} {key₁ key₂ : ObjectKey}
    (h : Apart s₁ s₂ key₁ key₂ c) (hq : c.Quiet) (hc : c.Consistent) (mount : MountSettings)
    (now : Timestamp) (seed : PasswordSeed) :
    s₂.SeesSame key₂ c (c.write? now s₁.target (s₁.writtenIn mount seed key₁ c)) := by
  refine ⟨fun source => Cluster.store_write?_of_ne (kind_ne_target source s₁), fun t₂ ht₂ => ?_⟩
  by_cases hkind : s₂.target = s₁.target
  · rw [hkind]
    refine Cluster.stored?_write?_of_ne fun o ho => ?_
    exact h _ t₂ (targetIn_of_writtenIn hq hc ho) ht₂ hkind.symm
  · rw [Cluster.stored?, Cluster.store_write?_of_ne hkind, Cluster.stored?]

end Source

end SqlOperator
