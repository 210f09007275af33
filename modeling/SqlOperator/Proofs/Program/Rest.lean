import SqlOperator.Proofs.Program.Replay
import SqlOperator.Reconcile

/-!
# Runs that change nothing

A task yields a result if it comes to it without writing anything, without putting
anything off, and in the state in which it started; it rests if this result is no
failure. Sequences of such tasks yield what their results come to.
-/

namespace SqlOperator

/-- The step writes nothing and puts nothing off. -/
def Step.Harmless : Step → Prop
  | .logged event => ∀ failure, event ≠ .requeueing failure
  | .exchanged e => e.call.isWrite = false

namespace Run

variable {α σ : Type} {r : Run σ α}

/-- No call of a harmless history is a write. -/
theorem isWrite_eq_false_of_harmless (h : ∀ step ∈ r.history, step.Harmless) {e : Exchange}
    (he : e ∈ r.exchanges) : e.call.isWrite = false := by
  obtain ⟨step, hmem, hstep⟩ := List.mem_filterMap.mp he
  cases step with
  | logged event => cases hstep
  | exchanged x =>
    obtain rfl := Option.some.inj hstep
    exact h _ hmem

theorem countIn_log_of_harmless (h : ∀ step ∈ r.history, step.Harmless) :
    Requeues.countIn r.log = 0 := by
  refine List.countP_eq_zero.mpr fun event hevent => ?_
  obtain ⟨step, hmem, hstep⟩ := List.mem_filterMap.mp hevent
  cases step with
  | exchanged x => cases hstep
  | logged x =>
    obtain rfl := Option.some.inj hstep
    have hne := h _ hmem
    cases x with
    | requeueing failure => exact absurd rfl (hne failure)
    | _ => exact Bool.false_ne_true

end Run

namespace Task

variable {α β σ : Type} {handler : Handler σ} {state : σ}

/-- The task comes to the result, which may be a failure, in the state in which it starts
and by harmless steps alone. -/
def Yields (handler : Handler σ) (state : σ) (t : Task α) (result : Except Failure α) : Prop :=
  ∃ history, t.run.run handler state = ⟨result, state, history⟩ ∧
    ∀ step ∈ history, step.Harmless

theorem yields_lift (result : Except Failure α) : Yields handler state (lift result) result :=
  ⟨[], rfl, List.forall_mem_nil _⟩

/-- What follows a task that yields a value runs from the same state. -/
theorem Yields.exists_run_bind {t : Task α} {a : α} (h : Yields handler state t (.ok a))
    (f : α → Task β) :
    ∃ history, (∀ step ∈ history, step.Harmless) ∧
      (t >>= f).run.run handler state =
        let next := (f a).run.run handler state
        { next with history := history ++ next.history } := by
  obtain ⟨history, hrun, hh⟩ := h
  refine ⟨history, hh, ?_⟩
  rw [ExceptT.run_bind, Program.run_bind, hrun]

/-- A failure ends a sequence, a value is followed by what comes next. -/
theorem Yields.bind {t : Task α} {f : α → Task β} {result : Except Failure α}
    {g : α → Except Failure β} (h : Yields handler state t result)
    (hf : ∀ a, result = .ok a → Yields handler state (f a) (g a)) :
    Yields handler state (t >>= f) (result >>= g) := by
  cases result with
  | error failure =>
    obtain ⟨history, hrun, hh⟩ := h
    refine ⟨history, ?_, hh⟩
    rw [ExceptT.run_bind, Program.run_bind, hrun]
    exact congrArg (Run.mk _ state) (List.append_nil history)
  | ok a =>
    obtain ⟨first, hh, hrun⟩ := h.exists_run_bind f
    obtain ⟨second, hsecond, hh'⟩ := hf a rfl
    exact ⟨first ++ second, by rw [hrun, hsecond]; rfl, List.forall_mem_append.mpr ⟨hh, hh'⟩⟩

/-- The task ends in `a`, in the state in which it starts, by harmless steps alone. -/
def Rests (handler : Handler σ) (state : σ) (t : Task α) (a : α) : Prop :=
  ∃ history, t.run.run handler state = ⟨.ok a, state, history⟩ ∧
    ∀ step ∈ history, step.Harmless

theorem rests_pure (a : α) : Rests handler state (pure a) a :=
  ⟨[], rfl, List.forall_mem_nil _⟩

theorem rests_lift {result : Except Failure α} {a : α} (h : result = .ok a) :
    Rests handler state (lift result) a := h ▸ rests_pure a

theorem rests_require {value : Option α} {a : α} (h : value = some a) (obstacle : Obstacle) :
    Rests handler state (require value obstacle) a := h ▸ rests_pure a

theorem rests_note {event : Event} (h : (Step.logged event).Harmless) :
    Rests handler state (note event) () :=
  ⟨[.logged event], rfl, List.forall_mem_singleton.mpr h⟩

/-- A call rests if it is no write and its answer leaves the state as it is. -/
theorem rests_ask {c : Call} {a : c.Answer} (hc : c.isWrite = false)
    (h : handler c state = (.ok a, state)) : Rests handler state (ask c) a := by
  have hrun : (ask c).run = .call c fun answer => .done (answer.mapError Failure.ofStore) := rfl
  refine ⟨[.exchanged ⟨c, .ok a⟩], ?_, List.forall_mem_singleton.mpr hc⟩
  rw [hrun, Program.run, h]
  rfl

/-- Steps in a row rest if each of them does. -/
theorem Rests.bind {t : Task α} {f : α → Task β} {a : α} {b : β} (h : Rests handler state t a)
    (hf : Rests handler state (f a) b) : Rests handler state (t >>= f) b := by
  have hnext : ∀ c, (Except.ok a : Except Failure α) = .ok c →
      Yields handler state (f c) (.ok b) := fun c hc => Except.ok.inj hc ▸ hf
  exact Yields.bind h hnext

end Task

end SqlOperator
