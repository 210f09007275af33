import SqlOperator.Cluster.NetworkPolicy
import SqlOperator.Cluster.ObjectKey
import SqlOperator.Sql.Certificate
import SqlOperator.Sql.Instance
import SqlOperator.Sql.User

/-!
# Kinds of objects

The operator reads three kinds of SQL resources and writes two kinds of targets.
A kind fixes the type of its objects, the names under which the server knows
them, and how they are read and written.
-/

namespace SqlOperator

/-- The kinds of objects that the operator reads or writes. -/
inductive Kind where
  | certificate
  | sqlInstance
  | user
  | secret
  | policy
  deriving DecidableEq, Inhabited, Repr

namespace Kind

/-- The objects of a kind. -/
abbrev Object : Kind → Type
  | .certificate => Certificate
  | .sqlInstance => Instance
  | .user => User
  | .secret => Secret
  | .policy => NetworkPolicy

def all : List Kind := [.certificate, .sqlInstance, .user, .secret, .policy]

/-- The name of the kind in objects. -/
def name : Kind → String
  | .certificate => "SQLSSLCert"
  | .sqlInstance => "SQLInstance"
  | .user => "SQLUser"
  | .secret => "Secret"
  | .policy => "NetworkPolicy"

/-- The kind that has this name in objects. -/
def ofName? (name : String) : Option Kind := all.find? (·.name = name)

/-- The API group; the core group has the empty name. -/
def group : Kind → String
  | .certificate | .sqlInstance | .user => "sql.cnrm.cloud.google.com"
  | .secret => ""
  | .policy => "networking.k8s.io"

/-- The version of its group in which objects are read and written. -/
def version : Kind → String
  | .certificate | .sqlInstance | .user => "v1beta1"
  | .secret | .policy => "v1"

/-- The group and version of the kind as objects declare them. -/
def apiVersion (kind : Kind) : String :=
  if kind.group.isEmpty then kind.version else kind.group ++ "/" ++ kind.version

/-- The name of the collection of objects of the kind. -/
def plural : Kind → String
  | .certificate => "sqlsslcerts"
  | .sqlInstance => "sqlinstances"
  | .user => "sqlusers"
  | .secret => "secrets"
  | .policy => "networkpolicies"

instance (kind : Kind) : DecidableEq kind.Object :=
  match kind with
  | .certificate => inferInstanceAs (DecidableEq Certificate)
  | .sqlInstance => inferInstanceAs (DecidableEq Instance)
  | .user => inferInstanceAs (DecidableEq User)
  | .secret => inferInstanceAs (DecidableEq Secret)
  | .policy => inferInstanceAs (DecidableEq NetworkPolicy)

/-- An object read from JSON. -/
def ofJson? : (kind : Kind) → Json → Option kind.Object
  | .certificate => Certificate.ofJson?
  | .sqlInstance => Instance.ofJson?
  | .user => User.ofJson?
  | .secret => Secret.ofJson?
  | .policy => NetworkPolicy.ofJson?

def toJson : (kind : Kind) → kind.Object → Json
  | .certificate => Certificate.toJson
  | .sqlInstance => Instance.toJson
  | .user => User.toJson
  | .secret => Secret.toJson
  | .policy => NetworkPolicy.toJson

def metadata : (kind : Kind) → kind.Object → Metadata
  | .certificate => Certificate.metadata
  | .sqlInstance => Instance.metadata
  | .user => User.metadata
  | .secret => Secret.metadata
  | .policy => NetworkPolicy.metadata

/-- The same object with other metadata. -/
def withMetadata : (kind : Kind) → kind.Object → Metadata → kind.Object
  | .certificate => fun o m => { o with metadata := m }
  | .sqlInstance => fun o m => { o with metadata := m }
  | .user => fun o m => { o with metadata := m }
  | .secret => fun o m => { o with metadata := m }
  | .policy => fun o m => { o with metadata := m }

@[simp] theorem metadata_withMetadata (kind : Kind) (o : kind.Object) (m : Metadata) :
    kind.metadata (kind.withMetadata o m) = m := by
  cases kind <;> rfl

@[simp] theorem withMetadata_metadata (kind : Kind) (o : kind.Object) :
    kind.withMetadata o (kind.metadata o) = o := by
  cases kind <;> rfl

@[simp] theorem withMetadata_withMetadata (kind : Kind) (o : kind.Object) (m n : Metadata) :
    kind.withMetadata (kind.withMetadata o m) n = kind.withMetadata o n := by
  cases kind <;> rfl

/-- The key under which an object is found. -/
def key (kind : Kind) (o : kind.Object) : ObjectKey := .ofMetadata (kind.metadata o)

/-- A reference to an object as the owner of another one. -/
def ownerReference (kind : Kind) (o : kind.Object) : OwnerReference where
  apiVersion := kind.apiVersion
  kind := kind.name
  name := (kind.metadata o).anyName
  uid := (kind.metadata o).uid.getD ""

end Kind

end SqlOperator
