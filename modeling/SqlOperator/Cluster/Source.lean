import SqlOperator.Cluster.Kind

/-!
# Sources and targets

The operator derives targets, which it owns, from sources, which others write.
-/

namespace SqlOperator

/-- The kinds of sources. -/
inductive Source where
  | certificate
  | sqlInstance
  | user
  deriving DecidableEq, Inhabited, Repr

namespace Source

def all : List Source := [.certificate, .sqlInstance, .user]

/-- The kind of the objects that are the sources. -/
def kind : Source → Kind
  | .certificate => .certificate
  | .sqlInstance => .sqlInstance
  | .user => .user

/-- The kind of the targets that are derived from the sources. -/
def target : Source → Kind
  | .certificate | .user => .secret
  | .sqlInstance => .policy

end Source

end SqlOperator
