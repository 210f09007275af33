import SqlOperator.Failure

/-!
# What a reconcile ends in

An operation says what was done to the target, an action when the source is
looked at next.
-/

namespace SqlOperator

/-- What was done to a target. -/
inductive Operation where
  | created
  | updated
  | unchanged
  deriving DecidableEq, Inhabited, Repr

def Operation.all : List Operation := [.created, .updated, .unchanged]

/-- The operation as log events show it. -/
def Operation.text : Operation → String
  | .created => "created"
  | .updated => "updated"
  | .unchanged => "unchanged"

/-- When a source is reconciled again. -/
inductive Action where
  /-- When it or its target changes. -/
  | awaitChange
  /-- After some seconds, if it does not change before. -/
  | requeue (seconds : Nat)
  deriving DecidableEq, Inhabited, Repr

/-- The seconds to wait after a temporary failure. -/
def Action.requeueSeconds : Nat := 60

/-- The action as log events show it. -/
def Action.text : Action → String
  | .awaitChange => "Action \x7b requeue_after: None \x7d"
  | .requeue seconds => "Action \x7b requeue_after: Some(" ++ toString seconds ++ "s) \x7d"

/-- The action that follows a reconcile; a permanent failure is surfaced. -/
def Action.ofResult : Except Failure Operation → Except Failure Action
  | .ok _ => .ok .awaitChange
  | .error failure =>
    match failure.kind with
    | .ignorable => .ok .awaitChange
    | .temporary => .ok (.requeue requeueSeconds)
    | .permanent => .error failure

end SqlOperator
