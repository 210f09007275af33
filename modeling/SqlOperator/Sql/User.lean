import SqlOperator.Sql.ResourceRef

/-!
# Database users

A user names the instance it belongs to and the secret entry that holds its
password.
-/

namespace SqlOperator

/-- Where the password is found, if that is in a secret. -/
structure PasswordSource where
  secretKeyRef : Option SecretKeyRef := none
  deriving DecidableEq, Inhabited

namespace PasswordSource

def ofJson? (value : Json) : Option PasswordSource := do
  let r ← Json.Record.ofJson? ["secretKeyRef"] 0 value
  some { secretKeyRef := ← r.optional? "secretKeyRef" SecretKeyRef.ofJson? }

def toJson (s : PasswordSource) : Json :=
  .obj (Json.member "secretKeyRef" (s.secretKeyRef.map SecretKeyRef.toJson))

end PasswordSource

/-- The password of a user; only a reference to it is read. -/
structure UserPassword where
  valueFrom : Option PasswordSource := none
  deriving DecidableEq, Inhabited

namespace UserPassword

def ofJson? (value : Json) : Option UserPassword := do
  let r ← Json.Record.ofJson? ["valueFrom"] 0 value
  some { valueFrom := ← r.optional? "valueFrom" PasswordSource.ofJson? }

def toJson (p : UserPassword) : Json :=
  .obj (Json.member "valueFrom" (p.valueFrom.map PasswordSource.toJson))

end UserPassword

/-- What a user names: its instance, its password, and how the database knows it. -/
structure UserSpec where
  instanceRef : ResourceRef
  password : Option UserPassword := none
  resourceId : Option String := none
  deriving DecidableEq, Inhabited

namespace UserSpec

/-- Only the reference to the instance has to be there. -/
def ofJson? (value : Json) : Option UserSpec := do
  let r ← Json.Record.ofJson? ["instanceRef", "password", "resourceID"] 1 value
  some {
    instanceRef := ← r.required? "instanceRef" ResourceRef.ofJson?
    password := ← r.optional? "password" UserPassword.ofJson?
    resourceId := ← r.optional? "resourceID" Json.asText? }

def toJson (s : UserSpec) : Json :=
  .obj <|
    [("instanceRef", s.instanceRef.toJson)] ++
    Json.member "password" (s.password.map UserPassword.toJson) ++
    Json.member "resourceID" (s.resourceId.map .str)

end UserSpec

/-- A user resource, of whose status nothing is read. -/
structure User where
  metadata : Metadata
  spec : UserSpec
  deriving DecidableEq, Inhabited

namespace User

/-- Metadata and spec have to be there. -/
def ofJson? (value : Json) : Option User := do
  let r ← Json.Record.ofJson? ["metadata", "spec"] 2 value
  some {
    metadata := ← r.required? "metadata" Metadata.ofJson?
    spec := ← r.required? "spec" UserSpec.ofJson? }

def toJson (u : User) : Json :=
  .obj
    [("apiVersion", .str "sql.cnrm.cloud.google.com/v1beta1"), ("kind", .str "SQLUser"),
      ("metadata", u.metadata.toJson), ("spec", u.spec.toJson)]

/-- The secret entry for the password, if both its name and its key are set. -/
def passwordSecretRef? (u : User) : Option SecretKeyRef :=
  (((u.spec.password.bind (·.valueFrom)).bind (·.secretKeyRef))).filter fun r =>
    !r.name.isEmpty && !r.key.isEmpty

end User

end SqlOperator
