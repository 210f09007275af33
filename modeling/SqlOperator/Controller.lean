import SqlOperator.Api.Request
import SqlOperator.Reconcile

/-!
# Controllers

A controller watches the sources of a kind and their targets, reconciles a source
whenever one of them changes, and logs how each reconcile ended.
-/

namespace SqlOperator.Controller

/-- The collections that a controller watches, in all namespaces or in one. -/
def watched (s : Source) (ns : Option String) : List String :=
  [Api.collectionPath s.kind ns, Api.collectionPath s.target ns]

/-- The event that reports how the reconcile of an object ended. -/
def report (s : Source) (m : Metadata) : Except Failure Action → Event
  | .ok action => .reconcileFinished s.kind m.anyName m.namespace action
  | .error _ =>
    .controllerError s.kind (.reconcileFailed s.kind m.anyName m.namespace)

/-- Reconcile a source that was delivered. -/
def deliver (s : Source) (mount : MountSettings) (draw : Draw) (m : Metadata) :
    Program (Except Failure Action) := do
  let result ← s.reconcile mount draw (.ofMetadata m)
  .log (report s m result) (.done result)

/-- The milliseconds before the first new attempt to list what is watched. The
time doubles with each attempt. -/
def firstDelay : Nat := 800

/-- The number of attempts within a time, with `delay` before the next one; each
attempt takes at least a millisecond of it. -/
def attemptsWithin (delay time : Nat) : Nat :=
  if 0 < delay ∧ delay ≤ time then 1 + attemptsWithin (2 * delay) (time - delay) else 1
termination_by time

/-- What a controller logs in a time during which no server can be reached. -/
def unreachable (s : Source) (time : Nat) : List Event :=
  List.replicate (attemptsWithin firstDelay time) (.controllerError s.kind .eventQueue)

end SqlOperator.Controller
