import SqlOperator.Event

/-!
# Programs over stores

What the operator does to a cluster is a program: a tree of calls, each with
what follows for every answer it may get, and of log events on the way. A
program is run by a handler, which answers the calls from a state of its own. So
the same program runs over objects in memory and over a server, and statements
about all answers are statements about the tree.
-/

namespace SqlOperator

/-- A call to the store of a kind. -/
inductive Call where
  /-- Get the object under a key, if there is one. -/
  | get (kind : Kind) (key : ObjectKey)
  /-- Store a new object. -/
  | create (kind : Kind) (object : kind.Object)
  /-- Store an object in place of the one with its key and resource version. -/
  | replace (kind : Kind) (object : kind.Object)

namespace Call

/-- What the store answers if it does not fail. -/
abbrev Answer : Call → Type
  | .get kind _ => Option kind.Object
  | .create kind _ => kind.Object
  | .replace kind _ => kind.Object

/-- The kind of the store that is called. -/
def kind : Call → Kind
  | .get kind _ => kind
  | .create kind _ => kind
  | .replace kind _ => kind

/-- The key that the call is about. -/
def key : Call → ObjectKey
  | .get _ key => key
  | .create kind object => kind.key object
  | .replace kind object => kind.key object

/-- Whether the call is to change what is stored. -/
def isWrite : Call → Bool
  | .get .. => false
  | .create .. | .replace .. => true

end Call

/-- A computation that calls stores and logs. -/
inductive Program (α : Type) where
  | done (value : α)
  | log (event : Event) (next : Program α)
  | call (c : Call) (resume : Except StoreError c.Answer → Program α)

namespace Program

variable {α β γ σ : Type}

/-- Go on with what follows for the value of a program. -/
def bind (p : Program α) (f : α → Program β) : Program β :=
  match p with
  | .done a => f a
  | .log event next => .log event (next.bind f)
  | .call c resume => .call c fun answer => (resume answer).bind f

instance : Monad Program where
  pure := .done
  bind := bind

@[simp] theorem pure_eq (a : α) : (pure a : Program α) = .done a := rfl

@[simp] theorem done_bind (a : α) (f : α → Program β) : (.done a >>= f : Program β) = f a := rfl

@[simp] theorem log_bind (event : Event) (next : Program α) (f : α → Program β) :
    (.log event next >>= f : Program β) = .log event (next >>= f) := rfl

@[simp] theorem call_bind (c : Call) (resume : Except StoreError c.Answer → Program α)
    (f : α → Program β) :
    (.call c resume >>= f : Program β) = .call c fun answer => resume answer >>= f := rfl

theorem bind_done (p : Program α) : p >>= Program.done = p := by
  induction p with
  | done a => rfl
  | log event next ih => simp [ih]
  | call c resume ih => simp [ih]

theorem bind_assoc (p : Program α) (f : α → Program β) (g : β → Program γ) :
    p >>= f >>= g = p >>= fun a => f a >>= g := by
  induction p with
  | done a => rfl
  | log event next ih => simp [ih]
  | call c resume ih => simp [ih]

instance : LawfulMonad Program :=
  LawfulMonad.mk' Program bind_done (fun _ _ => rfl) bind_assoc

end Program

/-- A call and the answer it got. -/
structure Exchange where
  call : Call
  answer : Except StoreError call.Answer

/-- What is seen of a program while it runs. -/
inductive Step where
  | logged (event : Event)
  | exchanged (exchange : Exchange)

/-- A program that ran to its end. -/
structure Run (σ α : Type) where
  value : α
  /-- The state after the last call. -/
  state : σ
  /-- What was logged and called, in order. -/
  history : List Step

namespace Run

variable {α σ : Type}

/-- The logged events in order. -/
def log (r : Run σ α) : List Event :=
  r.history.filterMap fun
    | .logged event => some event
    | .exchanged _ => none

/-- The calls and their answers in order. -/
def exchanges (r : Run σ α) : List Exchange :=
  r.history.filterMap fun
    | .logged _ => none
    | .exchanged exchange => some exchange

/-- The run with one more step in front. -/
def after (r : Run σ α) (step : Step) : Run σ α := { r with history := step :: r.history }

end Run

/-- How calls are answered from a state, and how they change it. -/
abbrev Handler (σ : Type) := (c : Call) → σ → Except StoreError c.Answer × σ

/-- Run a program from a state. -/
def Program.run {α σ : Type} (handler : Handler σ) : Program α → σ → Run σ α
  | .done value, state => ⟨value, state, []⟩
  | .log event next, state => (next.run handler state).after (.logged event)
  | .call c resume, state =>
    let (answer, state) := handler c state
    ((resume answer).run handler state).after (.exchanged ⟨c, answer⟩)

/-- A program that may fail. -/
abbrev Task := ExceptT Failure Program

namespace Task

variable {α : Type}

/-- Log an event. -/
def note (event : Event) : Task Unit := ExceptT.mk (.log event (.done (.ok ())))

/-- Call a store; an error of the store is a failure. -/
def ask (c : Call) : Task c.Answer :=
  ExceptT.mk (.call c fun answer => .done (answer.mapError Failure.ofStore))

/-- The value, which has to be there. -/
def require (value : Option α) (obstacle : Obstacle) : Task α :=
  match value with
  | some value => pure value
  | none => throw (.ofObstacle obstacle)

/-- The result of a computation without calls. -/
def lift (result : Except Failure α) : Task α := ExceptT.mk (.done result)

end Task

end SqlOperator
