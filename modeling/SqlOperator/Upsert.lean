import SqlOperator.Store.Program

/-!
# Creating or updating a target

A target is fetched, or started without content if it is not there; a mutation
shapes it; and it is written back only if that changed something. A failing
mutation writes nothing. A target that was changed by someone else since it was
fetched is not overwritten: the store refuses the outdated version.
-/

namespace SqlOperator

/-- Note on the object when the operator last changed it. -/
def Metadata.touch (m : Metadata) (now : Timestamp) : Metadata :=
  m.setAnnotation Annotation.lastUpdated now.render

/-- The object with a note of when the operator last changed it. -/
def Kind.touch (kind : Kind) (object : kind.Object) (now : Timestamp) : kind.Object :=
  kind.withMetadata object ((kind.metadata object).touch now)

/-- An object that has a key and nothing else. -/
def Kind.blank (kind : Kind) (key : ObjectKey) : kind.Object :=
  kind.withMetadata
    (match kind with
      | .certificate => default
      | .sqlInstance => default
      | .user => default
      | .secret => {}
      | .policy => {})
    { name := some key.name, «namespace» := some key.namespace }

/-- How a target is shaped, given whether it was there before. -/
abbrev Mutation (kind : Kind) := kind.Object → Presence → Except Failure kind.Object

/-- Create the target under `key` or update it as `mutate` says. -/
def upsert (now : Timestamp) (kind : Kind) (key : ObjectKey) (mutate : Mutation kind) :
    Task Operation := do
  match ← Task.ask (.get kind key) with
  | none =>
    let desired ← Task.lift (mutate (kind.blank key) .new)
    let _ ← Task.ask (.create kind (kind.touch desired now))
    return .created
  | some current =>
    let desired ← Task.lift (mutate current .existing)
    if desired = current then
      return .unchanged
    else
      let _ ← Task.ask (.replace kind (kind.touch desired now))
      return .updated

end SqlOperator
