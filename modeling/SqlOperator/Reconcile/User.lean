import SqlOperator.Credentials.Connection
import SqlOperator.Upsert

/-!
# Reconciling users

A user becomes a secret with the environment for connecting to the database. The
secret is the one that the user's password reference names, and a password that
it holds already stays.
-/

namespace SqlOperator.User

/-- The key of the instance, in the user's own namespace unless another one is named. -/
def instanceKey (u : User) (ns : String) : ObjectKey where
  «namespace» := if u.spec.instanceRef.namespace.isEmpty then ns else u.spec.instanceRef.namespace
  name := u.spec.instanceRef.name

/-- An instance that is named without a namespace is looked up in that of the user. -/
theorem instanceKey_eq (u : User) (ns : String) : u.instanceKey ns =
    ⟨if u.spec.instanceRef.namespace = "" then ns else u.spec.instanceRef.namespace,
      u.spec.instanceRef.name⟩ := by
  unfold instanceKey
  by_cases h : u.spec.instanceRef.namespace = ""
  · rw [if_pos h, if_pos (String.isEmpty_iff.mpr h)]
  · rw [if_neg h, if_neg (mt String.isEmpty_iff.mp h)]

/-- The private address of the instance under a key. -/
def readAddress (key : ObjectKey) : Task String := do
  let i ← Task.require (← Task.ask (.get .sqlInstance key)) (.instanceMissing key)
  if i.privateNetworkRef?.isNone then throw (.ofObstacle .notPrivate)
  Task.require i.privateAddress? .noPrivateAddress

/-- The name under which the user is known to the database. -/
def username (u : User) : String := u.spec.resourceId.getD u.metadata.anyName

/-- What connecting as the user takes, apart from the password. -/
structure Access where
  envPrefix : String
  host : String
  database : String
  username : String
  paths : FilePaths
  deriving DecidableEq, Inhabited

namespace Access

/-- The entry for the password in the secret. -/
def passwordKey (a : Access) : String := Connection.variableName a.envPrefix "PASSWORD"

/-- The connection that a password completes. -/
def connection (a : Access) (password : String) : Connection where
  envPrefix := a.envPrefix
  host := a.host
  database := a.database
  username := a.username
  password := password
  paths := a.paths

end Access

/-- An environment as the content of a secret. -/
def secretData (environment : TextMap) : SecretData :=
  .ofList (environment.entries.map fun (key, value) => (key, .ofText value))

/-- Shape the secret of a user. -/
def shapeSecret (u : User) (access : Access) (seed : PasswordSeed) : Mutation .secret :=
  fun secret presence => do
    let claimed ← (secret.metadata.claim presence (Kind.ownerReference .user u)).mapError
      Failure.ofOwnership
    let password := (secret.password? access.passwordKey).getD seed.password
    let environment ← (access.connection password).environment.mapError Failure.ofUrl
    return {
      secret with
      metadata := claimed.inheritFrom u.metadata
      data := some (secretData environment)
      stringData := none }

/-- Bring the secret of a user in line with it and with the address of its instance. -/
def reconcile (paths : FilePaths) (now : Timestamp) (seed : PasswordSeed) (key : ObjectKey) :
    Task Operation := do
  let u ← Task.require (← Task.ask (.get .user key)) (.sourceMissing .user)
  let envPrefix ← Task.require (u.metadata.annotation? Annotation.envVarPrefix) .noEnvVarPrefix
  let database ← Task.require (u.metadata.annotation? Annotation.databaseName) .noDatabaseName
  let ref ← Task.require u.passwordSecretRef? .noPasswordRef
  let host ← readAddress (u.instanceKey key.namespace)
  let access : Access := ⟨envPrefix, host, database, u.username, paths⟩
  if ref.key ≠ access.passwordKey then
    throw (.ofObstacle (.passwordKeyMismatch ref.key access.passwordKey))
  let target : ObjectKey := ⟨key.namespace, ref.name⟩
  Task.note (.reconcilingUser target envPrefix database)
  upsert now .secret target (u.shapeSecret access seed)

end SqlOperator.User
