import SqlOperator.Store.Program

/-!
# Statements about all answers

A program is judged by what it has exchanged so far: `Program.Always` says which
calls it may make after which exchanges, and what it may end with, whatever the
stores answer. Sequencing programs sequences their statements, so a statement
about a long program is put together from those about its parts.
-/

namespace SqlOperator

namespace Program

variable {α β : Type}

/-- Whatever the answers are, every call meets `calls` and the end meets `ends`, both
given what was exchanged before. -/
def Always (calls : List Exchange → Call → Prop) (ends : List Exchange → α → Prop)
    (before : List Exchange) : Program α → Prop
  | .done value => ends before value
  | .log _ next => next.Always calls ends before
  | .call c resume =>
    calls before c ∧
      ∀ answer, (resume answer).Always calls ends (before ++ [⟨c, answer⟩])

variable {calls calls' : List Exchange → Call → Prop} {ends ends' : List Exchange → α → Prop}
  {before : List Exchange}

theorem always_call (c : Call) (resume : Except StoreError c.Answer → Program α) :
    (call c resume).Always calls ends before ↔
      calls before c ∧
        ∀ answer, (resume answer).Always calls ends (before ++ [⟨c, answer⟩]) := Iff.rfl

/-- What is said of a sequence is said of its first part, with the second part's
statement at the end. -/
theorem always_bind {ends : List Exchange → β → Prop} (p : Program α) (f : α → Program β) :
    (p >>= f).Always calls ends before ↔
      p.Always calls (fun after a => (f a).Always calls ends after) before := by
  induction p generalizing before with
  | done a => exact Iff.rfl
  | log event next ih => exact ih
  | call c resume ih =>
    simp only [call_bind, always_call]
    exact and_congr_right fun _ => forall_congr' fun answer => ih answer

/-- What a program always does it also does under conditions that ask for less. -/
theorem Always.mono {p : Program α} (h : p.Always calls ends before)
    (hc : ∀ before c, calls before c → calls' before c)
    (he : ∀ before a, ends before a → ends' before a) : p.Always calls' ends' before := by
  induction p generalizing before with
  | done a => exact he _ _ h
  | log event next ih => exact ih h
  | call c resume ih =>
    obtain ⟨hcall, hresume⟩ := h
    exact ⟨hc _ _ hcall, fun answer => ih answer (hresume answer)⟩

/-- The same program after earlier exchanges, which it does not look at. -/
theorem Always.later {p : Program α} (h : p.Always calls ends before)
    (earlier : List Exchange) :
    p.Always (fun b c => ∃ own, b = earlier ++ own ∧ calls own c)
      (fun b a => ∃ own, b = earlier ++ own ∧ ends own a) (earlier ++ before) := by
  induction p generalizing before with
  | done a => exact ⟨before, rfl, h⟩
  | log event next ih => exact ih h
  | call c resume ih =>
    obtain ⟨hcall, hresume⟩ := h
    refine ⟨⟨before, rfl, hcall⟩, fun answer => ?_⟩
    rw [List.append_assoc]
    exact ih answer (hresume answer)

end Program

namespace Task

variable {α β : Type} {calls : List Exchange → Call → Prop} {before : List Exchange}

/-- A sequence of tasks, as a program. -/
theorem run_bind (t : Task α) (f : α → Task β) :
    (t >>= f).run = t.run >>= fun r => match r with
      | .ok a => (f a).run
      | .error failure => .done (.error failure) := by
  rw [ExceptT.run_bind]
  congr 1
  funext r
  cases r <;> rfl

/-- A sequence of tasks goes on after a success and ends with a failure. -/
theorem always_bind {ends : List Exchange → Except Failure β → Prop} (t : Task α)
    (f : α → Task β) :
    (t >>= f).run.Always calls ends before ↔
      t.run.Always calls
        (fun after r => match r with
          | .ok a => (f a).run.Always calls ends after
          | .error failure => ends after (.error failure)) before := by
  rw [run_bind, Program.always_bind]
  have he : (fun (after : List Exchange) (r : Except Failure α) =>
      (match r with
        | .ok a => (f a).run
        | .error failure => Program.done (.error failure)).Always calls ends after) =
      fun after r => match r with
        | .ok a => (f a).run.Always calls ends after
        | .error failure => ends after (.error failure) := by
    funext after r
    cases r <;> rfl
  rw [he]

/-- A call ends the sequence if the store fails and hands on its answer otherwise. -/
theorem always_ask_bind {c : Call} {ends : List Exchange → Except Failure β → Prop}
    (f : c.Answer → Task β) :
    (ask c >>= f).run.Always calls ends before ↔
      calls before c ∧
        (∀ answer, (f answer).run.Always calls ends (before ++ [⟨c, .ok answer⟩])) ∧
        ∀ e, ends (before ++ [⟨c, .error e⟩]) (.error (.ofStore e)) := by
  rw [always_bind]
  constructor
  · intro ⟨hc, ha⟩
    exact ⟨hc, fun answer => ha (.ok answer), fun e => ha (.error e)⟩
  · intro ⟨hc, ho, he⟩
    refine ⟨hc, fun answer => ?_⟩
    cases answer with
    | ok answer => exact ho answer
    | error e => exact he e

theorem always_lift {ends : List Exchange → Except Failure α → Prop}
    (result : Except Failure α) :
    (lift result).run.Always calls ends before ↔ ends before result := Iff.rfl

/-- A computation without calls ends the sequence if it fails. -/
theorem always_lift_bind {ends : List Exchange → Except Failure β → Prop}
    (result : Except Failure α) (f : α → Task β) :
    (lift result >>= f).run.Always calls ends before ↔
      (∀ a, result = .ok a → (f a).run.Always calls ends before) ∧
        ∀ failure, result = .error failure → ends before (.error failure) := by
  rw [always_bind]
  cases result with
  | ok a => exact ⟨fun h => ⟨fun _ ha => Except.ok.inj ha ▸ h, nofun⟩, fun h => h.1 a rfl⟩
  | error e => exact ⟨fun h => ⟨nofun, fun _ he => Except.error.inj he ▸ h⟩, fun h => h.2 e rfl⟩

end Task

end SqlOperator
