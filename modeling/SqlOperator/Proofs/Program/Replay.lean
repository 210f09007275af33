import SqlOperator.Proofs.Program.Always
import SqlOperator.Proofs.Store.Answers

/-!
# What a run has done

A run of a program by itself ends in what is said of the program for all answers,
and its exchanges, made again one after the other, lead through the same states.
So a run can be judged by its exchanges alone.
-/

namespace SqlOperator

namespace Program

variable {α β σ : Type} (handler : Handler σ)

/-- A sequence runs its parts one after the other. -/
theorem run_bind (p : Program α) (f : α → Program β) (state : σ) :
    (p >>= f).run handler state =
      let first := p.run handler state
      let second := (f first.value).run handler first.state
      { second with history := first.history ++ second.history } := by
  induction p generalizing state with
  | done a => rfl
  | log event next ih =>
    rw [log_bind, run, ih]
    rfl
  | call c resume ih =>
    exact congrArg (·.after (.exchanged ⟨c, (handler c state).1⟩)) (ih _ (handler c state).2)

/-- A run ends in what is said of the program for all answers. -/
theorem Always.ends_run {calls : List Exchange → Call → Prop} {ends : List Exchange → α → Prop}
    {before : List Exchange} {p : Program α} (h : p.Always calls ends before) (state : σ) :
    ends (before ++ (p.run handler state).exchanges) (p.run handler state).value := by
  induction p generalizing before state with
  | done a =>
    have hnil : before ++ ((done a).run handler state).exchanges = before := List.append_nil _
    rw [hnil]
    exact h
  | log event next ih => exact ih h state
  | call c resume ih =>
    have hrest := ih _ (h.2 (handler c state).1) (handler c state).2
    rw [List.append_assoc] at hrest
    exact hrest

end Program

namespace Cluster

/-- The calls, made one after the other, get these answers and lead to `d`. -/
def Replays (now : Timestamp) (c : Cluster) : List Exchange → Cluster → Prop
  | [], d => d = c
  | e :: rest, d => (answer now e.call c).1 = e.answer ∧ (answer now e.call c).2.Replays now rest d

variable {now : Timestamp} {c d : Cluster}

/-- The exchanges of a run lead to the state that it ends in. -/
theorem replays_run {α : Type} (now : Timestamp) (p : Program α) (c : Cluster) :
    c.Replays now (p.run (answer now) c).exchanges (p.run (answer now) c).state := by
  induction p generalizing c with
  | done a => rfl
  | log event next ih => exact ih c
  | call call resume ih => exact ⟨rfl, ih _ _⟩

theorem replays_append {h k : List Exchange} :
    c.Replays now (h ++ k) d ↔ ∃ m, c.Replays now h m ∧ m.Replays now k d := by
  induction h generalizing c with
  | nil => exact ⟨fun hr => ⟨c, rfl, hr⟩, fun ⟨m, hm, hr⟩ => hm ▸ hr⟩
  | cons e rest ih =>
    constructor
    · rintro ⟨ha, hr⟩
      obtain ⟨m, hm, hk⟩ := ih.mp hr
      exact ⟨m, ⟨ha, hm⟩, hk⟩
    · rintro ⟨m, ⟨ha, hm⟩, hk⟩
      exact ⟨ha, ih.mpr ⟨m, hm, hk⟩⟩

theorem Replays.consistent {h : List Exchange} (hr : c.Replays now h d) (hc : c.Consistent) :
    d.Consistent := by
  induction h generalizing c with
  | nil => exact hr ▸ hc
  | cons e rest ih => exact ih hr.2 (hc.answer now e.call)

/-- A call that is answered without an error takes no queued failure. -/
theorem answer_ok {call : Call} {answer : call.Answer}
    (h : (Cluster.answer now call c).1 = .ok answer) :
    c.nextFailure? call = none ∧ (Cluster.answer now call c).2.failures = c.failures := by
  rcases answer_cases now call c with ⟨f, -, hc⟩ | ⟨hnone, hc⟩
  · rw [hc] at h
    cases h
  · refine ⟨hnone, ?_⟩
    rw [hc]
    cases call <;> rfl

/-- A call changes the store of its own kind only. -/
theorem store_answer_of_ne (now : Timestamp) (call : Call) (c : Cluster) {kind : Kind}
    (h : kind ≠ call.kind) : (Cluster.answer now call c).2.store kind = c.store kind := by
  rcases answer_cases now call c with ⟨f, -, hc⟩ | ⟨-, hc⟩
  · rw [hc]
  · rw [hc]
    cases call <;> exact store_setStore_of_ne c _ h

/-- What is left alone by successful calls: the queued failures and the other stores. -/
theorem Replays.frame {h : List Exchange} (hr : c.Replays now h d)
    (hok : ∀ e ∈ h, e.answer.isOk = true) :
    d.failures = c.failures ∧
      ∀ kind, (∀ e ∈ h, e.call.kind ≠ kind) → d.store kind = c.store kind := by
  induction h generalizing c with
  | nil => exact hr ▸ ⟨rfl, fun _ _ => rfl⟩
  | cons e rest ih =>
    obtain ⟨ha, hr⟩ := hr
    obtain ⟨hf, hs⟩ := ih hr fun x hx => hok x (List.mem_cons_of_mem _ hx)
    have he := hok e List.mem_cons_self
    cases hans : e.answer with
    | error failure =>
      rw [hans] at he
      cases he
    | ok answer =>
      rw [hans] at ha
      refine ⟨hf.trans (answer_ok ha).2, fun kind hkind => ?_⟩
      rw [hs kind fun x hx => hkind x (List.mem_cons_of_mem _ hx)]
      exact store_answer_of_ne now e.call c (hkind e List.mem_cons_self).symm

end Cluster

end SqlOperator
