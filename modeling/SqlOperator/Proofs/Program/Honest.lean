import SqlOperator.Proofs.Program.Replay
import SqlOperator.Reconcile

/-!
# Tasks that tell of failed calls

A task is honest if a call that fails ends it at once, in the failure of this call, and
no other failure passes for one of a store. An honest task logs nothing that a reconcile
is counted by. Tasks that are put together from honest ones are honest.
-/

namespace SqlOperator

/-- The failure is none of a store. -/
def Failure.Own (failure : Failure) : Prop := ∀ e, failure.cause ≠ .store e

/-- The first failed call ends the program in its failure, no other failure is one of a
store, and no event tells of a source that is put off. -/
def Program.Honest {α : Type} : Program (Except Failure α) → Prop
  | .done result => ∀ failure, result = .error failure → failure.Own
  | .log event next => (∀ failure, event ≠ .requeueing failure) ∧ next.Honest
  | .call _ resume =>
    (∀ answer, (resume (.ok answer)).Honest) ∧
      ∀ e, resume (.error e) = .done (.error (.ofStore e))

/-- What an honest program has exchanged, and what it comes to. -/
inductive Told {α : Type} : List Exchange → Except Failure α → Prop where
  /-- All calls were answered. -/
  | answered {h : List Exchange} {result : Except Failure α} :
      (∀ e ∈ h, e.answer.isOk = true) → (∀ failure, result = .error failure → failure.Own) →
      Told h result
  /-- The last call failed. -/
  | refused {h : List Exchange} (call : Call) (e : StoreError) :
      (∀ e ∈ h, e.answer.isOk = true) →
      Told (h ++ [⟨call, .error e⟩]) (.error (.ofStore e))

namespace Told

variable {α : Type} {h : List Exchange} {result : Except Failure α}

theorem cons {e : Exchange} (he : e.answer.isOk = true) (ht : Told h result) :
    Told (e :: h) result := by
  cases ht with
  | answered hok hown => exact .answered (List.forall_mem_cons.mpr ⟨he, hok⟩) hown
  | @refused earlier call error hok =>
    exact .refused call error (List.forall_mem_cons.mpr ⟨he, hok⟩)

/-- Where a call failed, the result is the failure of a store. -/
theorem exists_of_failed (ht : Told h result) (hf : ∃ e ∈ h, e.answer.isOk = false) :
    ∃ e, result = .error (.ofStore e) := by
  cases ht with
  | answered hok _ =>
    obtain ⟨e, he, hfails⟩ := hf
    cases hfails.symm.trans (hok e he)
  | refused call e _ => exact ⟨e, rfl⟩

/-- A failure that is not temporary is none of a store, and no call failed. -/
theorem of_not_temporary {failure : Failure} (ht : Told h (.error failure : Except Failure α))
    (hk : failure.kind ≠ .temporary) :
    failure.Own ∧ ∀ e ∈ h, e.answer.isOk = true := by
  cases ht with
  | answered hok hown => exact ⟨hown failure rfl, hok⟩
  | refused call e _ => exact absurd rfl hk

end Told

namespace Program.Honest

variable {α σ : Type} {p : Program (Except Failure α)} (handler : Handler σ) (state : σ)

/-- A run tells of the call that failed, if one did. -/
theorem told_run (hp : p.Honest) :
    Told (p.run handler state).exchanges (p.run handler state).value := by
  induction p generalizing state with
  | done result => exact .answered (List.forall_mem_nil _) hp
  | log event next ih => exact ih state hp.2
  | call c resume ih =>
    obtain ⟨hok, hfailed⟩ := hp
    rw [run]
    generalize handler c state = answered
    obtain ⟨answer, next⟩ := answered
    cases answer with
    | ok answer => exact (ih _ next (hok answer)).cons rfl
    | error e =>
      simp only [hfailed]
      exact .refused c e (List.forall_mem_nil _)

/-- The log of a run has no source in it that is put off. -/
theorem countIn_log_run (hp : p.Honest) : Requeues.countIn (p.run handler state).log = 0 := by
  induction p generalizing state with
  | done result => rfl
  | log event next ih =>
    obtain ⟨hevent, hnext⟩ := hp
    have hlog : ((log event next).run handler state).log =
        event :: (next.run handler state).log := rfl
    rw [hlog, Requeues.countIn, List.countP_cons_of_neg, ← Requeues.countIn, ih state hnext]
    cases event with
    | requeueing failure => exact absurd rfl (hevent failure)
    | _ => exact Bool.false_ne_true
  | call c resume ih =>
    obtain ⟨hok, hfailed⟩ := hp
    rw [run]
    generalize handler c state = answered
    obtain ⟨answer, next⟩ := answered
    cases answer with
    | ok answer => exact ih _ next (hok answer)
    | error e =>
      simp only [hfailed]
      rfl

end Program.Honest

namespace Task

variable {α β : Type}

/-- The program of the task is honest. -/
def Honest (t : Task α) : Prop := t.run.Honest

theorem honest_pure (a : α) : (pure a : Task α).Honest := nofun

theorem honest_note (event : Event) (h : ∀ failure, event ≠ .requeueing failure) :
    (note event).Honest := ⟨h, nofun⟩

theorem honest_ask (c : Call) : (ask c).Honest := ⟨fun _ => nofun, fun _ => rfl⟩

theorem honest_lift {result : Except Failure α}
    (h : ∀ failure, result = .error failure → failure.Own) : (lift result).Honest := h

theorem honest_throw (obstacle : Obstacle) :
    (throw (.ofObstacle obstacle) : Task α).Honest :=
  fun _ he => Except.error.inj he ▸ nofun

theorem honest_require (value : Option α) (obstacle : Obstacle) :
    (require value obstacle).Honest := by
  cases value with
  | none => exact honest_throw obstacle
  | some a => exact honest_pure a

theorem Honest.ite {t u : Task α} (ht : t.Honest) (hu : u.Honest) (c : Prop) [Decidable c] :
    (if c then t else u).Honest := by
  split
  · exact ht
  · exact hu

/-- Honest steps in a row are honest. -/
theorem Honest.bind {t : Task α} {f : α → Task β} (h : t.Honest) (hf : ∀ a, (f a).Honest) :
    (t >>= f).Honest := by
  unfold Honest at h ⊢
  rw [run_bind]
  generalize t.run = p at h
  induction p with
  | done result =>
    cases result with
    | ok a => exact hf a
    | error failure => exact fun found hfound => h found (Except.error.inj hfound ▸ rfl)
  | log event next ih => exact ⟨h.1, ih h.2⟩
  | call c resume ih =>
    obtain ⟨hok, hfailed⟩ := h
    exact ⟨fun answer => ih _ (hok answer), fun e => congrArg (Program.bind · _) (hfailed e)⟩

end Task

end SqlOperator
