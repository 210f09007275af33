import SqlOperator.Store.Memory

/-!
# A cluster in memory

One store for every kind. Failures can be queued for the calls of a verb to a
store; a call that takes one fails before the store is touched.
-/

namespace SqlOperator

/-- What a call does, apart from the kind and object. -/
inductive Verb where
  | get
  | create
  | replace
  deriving DecidableEq, Inhabited, Repr

def Verb.name : Verb → String
  | .get => "get"
  | .create => "create"
  | .replace => "replace"

def Verb.ofName? (name : String) : Option Verb :=
  [Verb.get, .create, .replace].find? (·.name = name)

def Call.verb : Call → Verb
  | .get .. => .get
  | .create .. => .create
  | .replace .. => .replace

/-- A failure for the next call of a verb to the store of a kind. -/
structure QueuedFailure where
  kind : Kind
  verb : Verb
  error : ApiError
  deriving DecidableEq, Inhabited

/-- All stores, and the failures that calls to them will meet. -/
structure Cluster where
  store : (kind : Kind) → MemoryStore kind := fun _ => {}
  /-- The failures to come, oldest first. -/
  failures : List QueuedFailure := []

namespace Cluster

instance : Inhabited Cluster := ⟨{}⟩

/-- The cluster with another store for one kind. -/
def setStore (c : Cluster) (kind : Kind) (store : MemoryStore kind) : Cluster :=
  { c with store := fun k => if h : k = kind then h ▸ store else c.store k }

@[simp] theorem store_setStore_self (c : Cluster) (kind : Kind) (store : MemoryStore kind) :
    (c.setStore kind store).store kind = store := by
  simp [setStore]

theorem store_setStore_of_ne (c : Cluster) {kind other : Kind} (store : MemoryStore kind)
    (h : other ≠ kind) : (c.setStore kind store).store other = c.store other := by
  simp [setStore, h]

/-- Queue a failure. -/
def fail (c : Cluster) (failure : QueuedFailure) : Cluster :=
  { c with failures := c.failures ++ [failure] }

/-- The first failure that is queued for a call. -/
def nextFailure? (c : Cluster) (call : Call) : Option QueuedFailure :=
  c.failures.find? fun f => f.kind = call.kind && f.verb = call.verb

/-- Let the store of the call answer it. -/
def perform (c : Cluster) (now : Timestamp) : (call : Call) →
    Except StoreError call.Answer × Cluster
  | .get kind key =>
    let (found, store) := (c.store kind).get now key
    (.ok found, c.setStore kind store)
  | .create kind object =>
    let (stored, store) := (c.store kind).create now object
    (stored, c.setStore kind store)
  | .replace kind object =>
    let (stored, store) := (c.store kind).replace now object
    (stored, c.setStore kind store)

/-- Answer a call, with a queued failure if there is one for it. -/
def answer (now : Timestamp) : Handler Cluster := fun call c =>
  match c.nextFailure? call with
  | some failure =>
    (.error (.api failure.error), { c with failures := c.failures.erase failure })
  | none => c.perform now call

end Cluster

end SqlOperator
