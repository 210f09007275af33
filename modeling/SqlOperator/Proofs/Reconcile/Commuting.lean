import SqlOperator.Proofs.Reconcile.Effect
import SqlOperator.Proofs.Reconcile.Requeueing

/-!
# Reconciles that commute

Two reconciles with different targets come to the same in either order, and leave the same
objects. The stores draw their versions from one counter, so that the two orders differ in
the versions that they give out, and in what is made of versions and times; all else is
equal.

## Implementation notes

`Metadata.blur` takes the values out that a store sets, and the time of the last update,
but keeps whether they are there. Clusters are alike if they are equal after that, and their
counters are equal as they are.
-/

namespace SqlOperator

/-- A value that is set again is the last one set. -/
theorem SortedMap.insert_insert {κ α : Type} [Ord κ] [Std.TransOrd κ] [Std.LawfulEqOrd κ]
    [DecidableEq κ] (m : SortedMap κ α) (key : κ) (value last : α) :
    (m.insert key value).insert key last = m.insert key last := by
  refine SortedMap.ext_get? fun other => ?_
  simp only [SortedMap.get?_insert]
  by_cases ho : other = key
  · rw [if_pos ho, if_pos ho]
  · rw [if_neg ho, if_neg ho, if_neg ho]

namespace Metadata

/-- The metadata without the values of what a store sets, and of the last update. -/
def blur (m : Metadata) : Metadata :=
  { m with
    resourceVersion := m.resourceVersion.map fun _ => ""
    creationTimestamp := m.creationTimestamp.map fun _ => default
    uid := m.uid.map fun _ => ""
    annotations := m.annotations.map fun a =>
      if a.contains Annotation.lastUpdated then a.insert Annotation.lastUpdated "" else a }

/-- Neither the version nor the time of a write is left. -/
theorem blur_stamp_touch (m : Metadata) (v v' : Nat) (now now' clock clock' : Timestamp) :
    ((m.touch now').stamp v' clock').blur = ((m.touch now).stamp v clock).blur := by
  have hannotations (time : Timestamp) : ((m.touch time).stamp v clock).blur.annotations =
      some (m.annotationsOrEmpty.insert Annotation.lastUpdated "") := by
    simp [blur, stamp, touch, setAnnotation, SortedMap.contains, SortedMap.insert_insert]
  have h := (hannotations now').trans (hannotations now).symm
  simp only [blur, stamp, touch, setAnnotation, Option.map_some] at h ⊢
  rw [h]

end Metadata

namespace Kind

/-- The object with only its metadata blurred. -/
def blur (kind : Kind) (o : kind.Object) : kind.Object :=
  kind.withMetadata o (kind.metadata o).blur

theorem blur_stamp_touch (kind : Kind) (o : kind.Object) (v v' : Nat)
    (now now' clock clock' : Timestamp) :
    kind.blur (kind.stamp (kind.touch o now') v' clock') =
      kind.blur (kind.stamp (kind.touch o now) v clock) := by
  simp only [blur, stamp, touch, metadata_withMetadata, withMetadata_withMetadata]
  rw [Metadata.blur_stamp_touch _ v v' now now' clock clock']

/-- What is seen under a key of an object that was put down. -/
def seenOf (kind : Kind) (key : ObjectKey) (w : Option kind.Object) : Option kind.Object :=
  (w.filter fun o => kind.key o = key).map fun o =>
    kind.blur (kind.stamp (kind.touch o default) 0 default)

theorem seenOf_eq_none {kind : Kind} {key : ObjectKey} {w : Option kind.Object}
    (h : ∀ o, w = some o → kind.key o ≠ key) : kind.seenOf key w = none := by
  rw [seenOf, Option.map_eq_none_iff, Option.filter_eq_none_iff]
  intro o ho
  simp [h o ho]

end Kind

namespace MemoryStore

variable {kind : Kind} {s t : MemoryStore kind}

/-- The stores hold the same objects, but for what a store sets and the last update, and
have come as far. -/
structure Alike (s t : MemoryStore kind) : Prop where
  objects : ∀ key, (t.objects.get? key).map kind.blur = (s.objects.get? key).map kind.blur
  versions : t.versions = s.versions
  writes : t.writes = s.writes
  raceArmed : t.raceArmed = s.raceArmed

theorem Alike.refl (s : MemoryStore kind) : s.Alike s := ⟨fun _ => rfl, rfl, rfl, rfl⟩

theorem versions_write? (s : MemoryStore kind) (now : Timestamp) (w : Option kind.Object) :
    (s.write? now w).versions = s.versions + w.isSome.toNat := by
  cases w <;> rfl

theorem writes_write? (s : MemoryStore kind) (now : Timestamp) (w : Option kind.Object) :
    (s.write? now w).writes = s.writes + w.isSome.toNat := by
  cases w <;> rfl

theorem raceArmed_write? (s : MemoryStore kind) (now : Timestamp) (w : Option kind.Object) :
    (s.write? now w).raceArmed = s.raceArmed := by
  cases w <;> rfl

/-- What is seen after an object was put down, whenever that was. -/
theorem seen_write? (s : MemoryStore kind) (now : Timestamp) (w : Option kind.Object)
    (key : ObjectKey) :
    ((s.write? now w).objects.get? key).map kind.blur =
      (kind.seenOf key w).or ((s.objects.get? key).map kind.blur) := by
  cases w with
  | none => rfl
  | some o =>
    rw [write?, get?_write, Kind.key_touch]
    by_cases hkey : kind.key o = key
    · rw [if_pos hkey.symm, Kind.seenOf, Option.filter_some, if_pos (by simpa using hkey)]
      exact congrArg some (kind.blur_stamp_touch o _ _ _ _ _ _)
    · rw [if_neg (Ne.symm hkey), Kind.seenOf_eq_none, Option.none_or]
      exact fun _ ho => Option.some.inj ho ▸ hkey

/-- Objects with different keys are put down in either order, and at any times. -/
theorem alike_write?_write? (s : MemoryStore kind) {w₁ w₂ : Option kind.Object}
    (h : ∀ o₁ o₂, w₁ = some o₁ → w₂ = some o₂ → kind.key o₁ ≠ kind.key o₂)
    (n₁ n₂ n₁' n₂' : Timestamp) :
    ((s.write? n₁ w₁).write? n₂ w₂).Alike ((s.write? n₂' w₂).write? n₁' w₁) := by
  constructor
  · intro key
    simp only [seen_write?]
    rw [← Option.or_assoc, ← Option.or_assoc]
    congr 1
    by_cases hfirst : ∀ o₁, w₁ = some o₁ → kind.key o₁ ≠ key
    · rw [Kind.seenOf_eq_none hfirst, Option.none_or, Option.or_none]
    · obtain ⟨o₁, hw₁, hkey⟩ : ∃ o₁, w₁ = some o₁ ∧ kind.key o₁ = key := by
        simpa using hfirst
      have hsecond : kind.seenOf key w₂ = none :=
        Kind.seenOf_eq_none fun o₂ hw₂ he => h o₁ o₂ hw₁ hw₂ (hkey.trans he.symm)
      rw [hsecond, Option.none_or, Option.or_none]
  · simp only [versions_write?, Nat.add_right_comm]
  · simp only [writes_write?, Nat.add_right_comm]
  · simp only [raceArmed_write?]

theorem alike_write? (s : MemoryStore kind) (w : Option kind.Object) (n n' : Timestamp) :
    (s.write? n w).Alike (s.write? n' w) := by
  have hnone : ∀ o₁ o₂, w = some o₁ → (none : Option kind.Object) = some o₂ →
      kind.key o₁ ≠ kind.key o₂ := fun _ _ _ ho => nomatch ho
  exact s.alike_write?_write? hnone n n n' n

end MemoryStore

namespace Cluster

/-- The stores are alike, and the same failures are queued. -/
structure Alike (c d : Cluster) : Prop where
  stores : ∀ kind, (c.store kind).Alike (d.store kind)
  failures : d.failures = c.failures

/-- Different objects are put down in either order, and at any times. -/
theorem alike_write?_write? (c : Cluster) {k₁ k₂ : Kind} {w₁ : Option k₁.Object}
    {w₂ : Option k₂.Object}
    (h : k₁ = k₂ → ∀ o₁ o₂, w₁ = some o₁ → w₂ = some o₂ → k₁.key o₁ ≠ k₂.key o₂)
    (n₁ n₂ n₁' n₂' : Timestamp) :
    ((c.write? n₁ k₁ w₁).write? n₂ k₂ w₂).Alike ((c.write? n₂' k₂ w₂).write? n₁' k₁ w₁) := by
  refine ⟨fun kind => ?_, rfl⟩
  by_cases hk : k₁ = k₂
  · subst hk
    by_cases hkind : kind = k₁
    · subst hkind
      simp only [write?, store_setStore_self]
      exact MemoryStore.alike_write?_write? _ (h rfl) n₁ n₂ n₁' n₂'
    · simp only [store_write?_of_ne hkind]
      exact .refl _
  · by_cases hkind₁ : kind = k₁
    · subst hkind₁
      rw [store_write?_of_ne hk]
      simp only [write?, store_setStore_self, store_setStore_of_ne _ _ hk]
      exact (c.store kind).alike_write? w₁ n₁ n₁'
    · rw [store_write?_of_ne (c := write? c _ _ _) hkind₁]
      by_cases hkind₂ : kind = k₂
      · subst hkind₂
        simp only [write?, store_setStore_self, store_setStore_of_ne _ _ hkind₁]
        exact (c.store kind).alike_write? w₂ n₂ n₂'
      · rw [store_write?_of_ne hkind₂, store_write?_of_ne hkind₁, store_write?_of_ne hkind₂]
        exact .refl _

end Cluster

theorem Requeues.add_right_comm (q : Requeues) (s₁ s₂ : Source) (m n : Nat) :
    (q.add s₁ m).add s₂ n = (q.add s₂ n).add s₁ m := by
  cases s₁ <;> cases s₂ <;> simp only [add, Nat.add_right_comm]

theorem Source.Apart.symm {s₁ s₂ : Source} {key₁ key₂ : ObjectKey} {c : Cluster}
    (h : Apart s₁ s₂ key₁ key₂ c) : Apart s₂ s₁ key₂ key₁ c :=
  fun t₁ t₂ ht₁ ht₂ hkind => (h t₂ t₁ ht₂ ht₁ hkind.symm).symm

namespace Session

/-- What a request comes to and puts down that has the cluster for itself. -/
theorem reconcile_alone (s : Session) (mount : MountSettings) (draw : Draw) (source : Source)
    (key : ObjectKey) (hq : s.cluster.Quiet) (hc : s.cluster.Consistent) :
    let answer := Action.ofResult (source.resultIn mount draw key s.cluster)
    let r := s.reconcile mount draw source key
    r.value = answer ∧
      r.state.cluster = s.cluster.write? draw.now source.target
        (source.writtenIn mount draw.seed key s.cluster) ∧
      r.state.requeues = s.requeues.add source (if Action.putsOff answer then 1 else 0) := by
  intro answer r
  obtain ⟨hvalue, hstate⟩ := source.run_reconcile_alone mount draw key hq hc
  have hrequeues := s.requeues_reconcile_eq mount draw source key
  change r.state.requeues = s.requeues.add source (if Action.putsOff r.value then 1 else 0)
    at hrequeues
  rw [show r.value = answer from hvalue] at hrequeues
  exact ⟨hvalue, hstate, hrequeues⟩

variable {s : Session} {s₁ s₂ : Source} {key₁ key₂ : ObjectKey}

/-- The second of two requests with different targets comes to what it would have come to
at once, and puts the same down. -/
theorem reconcile_second (hq : s.cluster.Quiet) (hc : s.cluster.Consistent)
    (hapart : Source.Apart s₁ s₂ key₁ key₂ s.cluster) (mount : MountSettings)
    (draw₁ draw₂ : Draw) :
    let answer₁ := Action.ofResult (s₁.resultIn mount draw₁ key₁ s.cluster)
    let answer₂ := Action.ofResult (s₂.resultIn mount draw₂ key₂ s.cluster)
    let r := (s.reconcile mount draw₁ s₁ key₁).state.reconcile mount draw₂ s₂ key₂
    r.value = answer₂ ∧
      r.state.cluster = (s.cluster.write? draw₁.now s₁.target
        (s₁.writtenIn mount draw₁.seed key₁ s.cluster)).write? draw₂.now s₂.target
          (s₂.writtenIn mount draw₂.seed key₂ s.cluster) ∧
      r.state.requeues = (s.requeues.add s₁ (if Action.putsOff answer₁ then 1 else 0)).add s₂
        (if Action.putsOff answer₂ then 1 else 0) := by
  intro answer₁ answer₂ r
  obtain ⟨-, hcluster, hrequeues⟩ := s.reconcile_alone mount draw₁ s₁ key₁ hq hc
  have hsees := hapart.seesSame_write? hq hc mount draw₁.now draw₁.seed
  rw [← hcluster] at hsees
  have hquiet : (s.reconcile mount draw₁ s₁ key₁).state.cluster.Quiet := hcluster ▸ hq.write?
  have hconsistent : (s.reconcile mount draw₁ s₁ key₁).state.cluster.Consistent :=
    hcluster ▸ hc.write?
  have hsecond := (s.reconcile mount draw₁ s₁ key₁).state.reconcile_alone mount draw₂ s₂ key₂
    hquiet hconsistent
  rw [hsees.resultIn_eq hq rfl, hsees.writtenIn_eq hq, hcluster, hrequeues] at hsecond
  exact hsecond

/-- Two requests whose targets are different objects, and which have the cluster for
themselves one after the other, are answered in one way in either order, whenever they
come. They leave the same counters, and the same objects but for what a store sets and the
time of the last update. -/
theorem reconciles_commute (moves : List (Move Job)) (requeues : Requeues)
    (mount : MountSettings) (s₁ s₂ : Source) (key₁ key₂ : ObjectKey)
    (draw₁ draw₁' draw₂ draw₂' : Draw) :
    let before : Session := ⟨(System.reconciling moves).cluster, requeues⟩
    before.cluster.Quiet → Source.Apart s₁ s₂ key₁ key₂ before.cluster →
    draw₁'.seed = draw₁.seed → draw₂'.seed = draw₂.seed →
    let first := before.reconcile mount draw₁ s₁ key₁
    let second := first.state.reconcile mount draw₂ s₂ key₂
    let second' := before.reconcile mount draw₂' s₂ key₂
    let first' := second'.state.reconcile mount draw₁' s₁ key₁
    first'.value = first.value ∧ second'.value = second.value ∧
      first'.state.requeues = second.state.requeues ∧
      second.state.cluster.Alike first'.state.cluster := by
  intro before hq hapart hseed₁ hseed₂ first second second' first'
  have hc : before.cluster.Consistent := (System.sound_reconciling moves).consistent
  obtain ⟨hfirst, -, -⟩ := before.reconcile_alone mount draw₁ s₁ key₁ hq hc
  obtain ⟨hsecond', -, -⟩ := before.reconcile_alone mount draw₂' s₂ key₂ hq hc
  obtain ⟨hsecond, hcluster, hrequeues⟩ := reconcile_second hq hc hapart mount draw₁ draw₂
  obtain ⟨hfirst', hcluster', hrequeues'⟩ :=
    reconcile_second hq hc hapart.symm mount draw₂' draw₁'
  -- The times of the requests are no matter for what they come to.
  have hresult₁ : s₁.resultIn mount draw₁' key₁ before.cluster =
      s₁.resultIn mount draw₁ key₁ before.cluster := (Source.SeesSame.refl ..).resultIn_eq hq hseed₁
  have hresult₂ : s₂.resultIn mount draw₂' key₂ before.cluster =
      s₂.resultIn mount draw₂ key₂ before.cluster := (Source.SeesSame.refl ..).resultIn_eq hq hseed₂
  rw [hresult₁] at hfirst' hrequeues'
  rw [hresult₂] at hsecond' hrequeues'
  rw [hseed₁, hseed₂] at hcluster'
  refine ⟨hfirst'.trans hfirst.symm, hsecond'.trans hsecond.symm, ?_, ?_⟩
  · exact hrequeues'.trans ((Requeues.add_right_comm _ s₂ s₁ _ _).trans hrequeues.symm)
  · rw [show first'.state.cluster = _ from hcluster', show second.state.cluster = _ from hcluster]
    refine Cluster.alike_write?_write? _ (fun hkind o₁ o₂ ho₁ ho₂ => ?_) _ _ _ _
    exact hapart _ _ (Source.targetIn_of_writtenIn hq hc ho₁)
      (Source.targetIn_of_writtenIn hq hc ho₂) hkind

end Session

namespace Sample

/-- Another user of the instance, with a secret of its own. -/
def worker : User where
  metadata := { (account "JOB").metadata with name := some "job" }
  spec := {
    instanceRef := { name := "db" }
    password := some { valueFrom := some { secretKeyRef := some {
      name := "job-secret"
      key := Connection.variableName "JOB" "PASSWORD" } } } }

/-- Two users of one instance that have no secrets yet. -/
def coworkers : List (Move Job) :=
  [.intervene (.insert .sqlInstance privateDatabase time),
    .intervene (.insert .user (account "APP") time), .intervene (.insert .user worker time)]

/-- A minute later. -/
def later : Timestamp := ⟨60, false⟩

end Sample

namespace Session

open Sample

/-- The secrets of two users are created in either order, at different times. -/
theorem reconciles_commute_of_two_users :
    let before : Session := ⟨(System.reconciling coworkers).cluster, {}⟩
    let first := before.reconcile {} ⟨time, seed⟩ .user ⟨"ns", "app"⟩
    let second := first.state.reconcile {} ⟨later, seed⟩ .user ⟨"ns", "job"⟩
    let second' := before.reconcile {} ⟨time, seed⟩ .user ⟨"ns", "job"⟩
    let first' := second'.state.reconcile {} ⟨later, seed⟩ .user ⟨"ns", "app"⟩
    (second.state.cluster.store .secret).writes = 2 ∧ first'.value = first.value ∧
      second'.value = second.value ∧ second.state.cluster.Alike first'.state.cluster := by
  intro before first second second' first'
  have hquiet : before.cluster.Quiet := ⟨by decide +kernel, by intro kind; cases kind <;> rfl⟩
  have htargets : Source.user.targetIn ⟨"ns", "app"⟩ before.cluster = some ⟨"ns", "app-secret"⟩ ∧
      Source.user.targetIn ⟨"ns", "job"⟩ before.cluster = some ⟨"ns", "job-secret"⟩ := by
    decide +kernel
  have hapart : Source.Apart .user .user ⟨"ns", "app"⟩ ⟨"ns", "job"⟩ before.cluster := by
    intro t₁ t₂ ht₁ ht₂ _
    obtain rfl := Option.some.inj (htargets.1.symm.trans ht₁)
    obtain rfl := Option.some.inj (htargets.2.symm.trans ht₂)
    decide
  obtain ⟨hfirst, hsecond, -, halike⟩ := reconciles_commute coworkers {} {} .user .user
    ⟨"ns", "app"⟩ ⟨"ns", "job"⟩ ⟨time, seed⟩ ⟨later, seed⟩ ⟨later, seed⟩ ⟨time, seed⟩
    hquiet hapart rfl rfl
  exact ⟨by decide +kernel, hfirst, hsecond, halike⟩

end Session

end SqlOperator
