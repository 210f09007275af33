import SqlOperator.Proofs.Program.Always
import SqlOperator.Proofs.Reconcile.Outcome
import SqlOperator.Proofs.Store.Likeness

/-!
# Programs side by side

Two programs go side by side if they log the same events and make the same calls, with
alike objects, as long as they get alike answers. Run on clusters that are alike they lead
to clusters that are alike, and their logs are equal.
-/

namespace SqlOperator

namespace Program

variable (L : Likeness) {α β γ δ : Type}

/-- The programs log the same and call the same, with alike objects, for all alike answers,
and end with related values. -/
inductive Parallel (R : α → β → Prop) : Program α → Program β → Prop where
  | done {a : α} {b : β} : R a b → Parallel R (.done a) (.done b)
  | log (event : Event) {p : Program α} {q : Program β} :
      Parallel R p q → Parallel R (.log event p) (.log event q)
  | get (kind : Kind) (key : ObjectKey)
      {p : Except StoreError (Option kind.Object) → Program α}
      {q : Except StoreError (Option kind.Object) → Program β} :
      (∀ x y, Paired (L.Found kind) x y → Parallel R (p x) (q y)) →
      Parallel R (.call (.get kind key) p) (.call (.get kind key) q)
  | create {kind : Kind} {o o' : kind.Object} {p : Except StoreError kind.Object → Program α}
      {q : Except StoreError kind.Object → Program β} :
      L.Like kind o o' → (∀ x y, Paired (L.Like kind) x y → Parallel R (p x) (q y)) →
      Parallel R (.call (.create kind o) p) (.call (.create kind o') q)
  | replace {kind : Kind} {o o' : kind.Object} {p : Except StoreError kind.Object → Program α}
      {q : Except StoreError kind.Object → Program β} :
      L.Like kind o o' → (∀ x y, Paired (L.Like kind) x y → Parallel R (p x) (q y)) →
      Parallel R (.call (.replace kind o) p) (.call (.replace kind o') q)

variable {L} {R : α → β → Prop} {S : γ → δ → Prop} {p : Program α} {q : Program β}

theorem Parallel.bind (h : Parallel L R p q) {f : α → Program γ} {g : β → Program δ}
    (hfg : ∀ a b, R a b → Parallel L S (f a) (g b)) : Parallel L S (p >>= f) (q >>= g) := by
  induction h with
  | done hab => exact hfg _ _ hab
  | log event _ ih => exact .log event ih
  | get kind key _ ih => exact .get kind key ih
  | create ho _ ih => exact .create ho ih
  | replace ho _ ih => exact .replace ho ih

/-- What two runs have in common: their values are related, their logs are equal, and the
clusters they lead to are alike. -/
structure RunsAlike (L : Likeness) (R : α → β → Prop) (r : Run Cluster α) (r' : Run Cluster β) :
    Prop where
  value : R r.value r'.value
  log : r'.log = r.log
  state : L.Clusters r.state r'.state

/-- A call that is answered alike is not seen in the logs. -/
theorem RunsAlike.after {r : Run Cluster α} {r' : Run Cluster β} (h : RunsAlike L R r r')
    (e e' : Exchange) : RunsAlike L R (r.after (.exchanged e)) (r'.after (.exchanged e')) :=
  ⟨h.value, h.log, h.state⟩

/-- Programs that are parallel run alike on clusters that are alike. -/
theorem Parallel.run (h : Parallel L R p q) (now : Timestamp) {c d : Cluster}
    (hcd : L.Clusters c d) :
    RunsAlike L R (p.run (Cluster.answer now) c) (q.run (Cluster.answer now) d) := by
  induction h generalizing c d with
  | done hab => exact ⟨hab, rfl, hcd⟩
  | log event _ ih =>
    obtain ⟨hvalue, hlog, hstate⟩ := ih hcd
    exact ⟨hvalue, congrArg (event :: ·) hlog, hstate⟩
  | get kind key _ ih =>
    obtain ⟨hanswer, hstate⟩ := hcd.answer_get now kind key
    exact (ih _ _ hanswer hstate).after _ _
  | create ho _ ih =>
    obtain ⟨hanswer, hstate⟩ := hcd.answer_create ho now
    exact (ih _ _ hanswer hstate).after _ _
  | replace ho _ ih =>
    obtain ⟨hanswer, hstate⟩ := hcd.answer_replace ho now
    exact (ih _ _ hanswer hstate).after _ _

end Program

namespace Task

variable {L : Likeness} {α β γ δ : Type} {R : α → β → Prop} {S : γ → δ → Prop}

/-- The tasks go side by side and succeed with related values, or fail in one way. -/
def Parallel (L : Likeness) (R : α → β → Prop) (t : Task α) (u : Task β) : Prop :=
  Program.Parallel L (Paired R) t.run u.run

theorem Parallel.bind {t : Task α} {u : Task β} (h : Parallel L R t u) {f : α → Task γ}
    {g : β → Task δ} (hfg : ∀ a b, R a b → Parallel L S (f a) (g b)) :
    Parallel L S (t >>= f) (u >>= g) := by
  rw [Parallel, run_bind, run_bind]
  refine Program.Parallel.bind h fun x y hxy => ?_
  cases hxy with
  | ok hab => exact hfg _ _ hab
  | error e => exact .done (.error e)

theorem parallel_pure {a : α} {b : β} (h : R a b) : Parallel L R (pure a) (pure b) :=
  .done (.ok h)

theorem parallel_lift {x : Except Failure α} {y : Except Failure β} (h : Paired R x y) :
    Parallel L R (lift x) (lift y) :=
  .done h

theorem parallel_lift_bind (x : Except Failure α) {f : α → Task γ} {g : α → Task δ}
    (hfg : ∀ a, Parallel L S (f a) (g a)) : Parallel L S (lift x >>= f) (lift x >>= g) := by
  refine (parallel_lift (.refl x fun _ _ => rfl)).bind ?_
  rintro a _ rfl
  exact hfg a

theorem parallel_note (event : Event) : Parallel L Eq (note event) (note event) :=
  .log event (.done (.ok rfl))

theorem parallel_announce (events : List Event) :
    Parallel L Eq (announce events) (announce events) := by
  induction events with
  | nil => exact parallel_pure rfl
  | cons event rest ih => exact (parallel_note event).bind fun _ _ _ => ih

theorem parallel_get (kind : Kind) (key : ObjectKey) :
    Parallel L (L.Found kind) (ask (.get kind key)) (ask (.get kind key)) :=
  .get kind key fun _ _ h => .done (h.mapError Failure.ofStore)

theorem parallel_create {kind : Kind} {o o' : kind.Object} (h : L.Like kind o o') :
    Parallel L (L.Like kind) (ask (.create kind o)) (ask (.create kind o')) :=
  .create h fun _ _ h => .done (h.mapError Failure.ofStore)

theorem parallel_replace {kind : Kind} {o o' : kind.Object} (h : L.Like kind o o') :
    Parallel L (L.Like kind) (ask (.replace kind o)) (ask (.replace kind o')) :=
  .replace h fun _ _ h => .done (h.mapError Failure.ofStore)

end Task

/-- Of alike targets the mutations make alike ones, or fail in one way; and if one leaves
its target as it is, the other does. -/
def Mutation.Parallel {kind : Kind} (L : Likeness) (mutate mutate' : Mutation kind) : Prop :=
  ∀ o o' presence, L.Like kind o o' →
    Paired (fun d d' => L.Like kind d d' ∧ (d = o ↔ d' = o')) (mutate o presence)
      (mutate' o' presence)

/-- Plans for one target that announce the same and shape it side by side. -/
structure Plan.Parallel {kind : Kind} (L : Likeness) (p q : Plan kind) : Prop where
  notes : q.notes = p.notes
  target : q.target = p.target
  mutate : p.mutate.Parallel L q.mutate

section

variable {L : Likeness} {kind : Kind}

/-- Upserts are parallel if their mutations are. -/
theorem parallel_upsert {mutate mutate' : Mutation kind} (h : mutate.Parallel L mutate')
    (now : Timestamp) (key : ObjectKey) :
    Task.Parallel L Eq (upsert now kind key mutate) (upsert now kind key mutate') := by
  refine (Task.parallel_get kind key).bind fun found found' hfound => ?_
  cases hfound with
  | none =>
    refine (Task.parallel_lift (h _ _ .new (L.refl _))).bind fun d d' hd => ?_
    refine (Task.parallel_create (Likeness.touch hd.1 now)).bind fun _ _ _ => ?_
    exact Task.parallel_pure rfl
  | @some o o' ho =>
    refine (Task.parallel_lift (h o o' .existing ho)).bind fun d d' ⟨hd, hsame⟩ => ?_
    by_cases hunchanged : d = o
    · rw [if_pos hunchanged, if_pos (hsame.mp hunchanged)]
      exact Task.parallel_pure rfl
    · rw [if_neg hunchanged, if_neg (mt hsame.mpr hunchanged)]
      refine (Task.parallel_replace (Likeness.touch hd now)).bind fun _ _ _ => ?_
      exact Task.parallel_pure rfl

theorem Plan.Parallel.carryOut {p q : Plan kind} (h : p.Parallel L q) (now : Timestamp) :
    Task.Parallel L Eq (p.carryOut now) (q.carryOut now) := by
  obtain ⟨notes, target, mutate⟩ := p
  obtain ⟨rfl, rfl, hmutate⟩ := h
  exact (Task.parallel_announce _).bind fun _ _ _ => parallel_upsert hmutate now _

/-- Where two tasks of a source go side by side, their reconciles do. -/
theorem Source.parallel_reconcile {s : Source} {mount : MountSettings} {draw draw' : Draw}
    {key : ObjectKey} (h : Task.Parallel L Eq (s.task mount draw key) (s.task mount draw' key)) :
    Program.Parallel L Eq (s.reconcile mount draw key) (s.reconcile mount draw' key) := by
  refine Program.Parallel.bind h fun x y hxy => ?_
  obtain rfl := hxy.eq_of_eq
  exact .log _ (.done rfl)

end

end SqlOperator
