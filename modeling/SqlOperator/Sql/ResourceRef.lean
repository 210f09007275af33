import SqlOperator.Cluster.Metadata

/-!
# References between SQL resources
-/

namespace SqlOperator

/-- A reference to another SQL resource: a name and namespace in the cluster, or
the path of something outside of it. -/
structure ResourceRef where
  name : String := ""
  «namespace» : String := ""
  external : Option String := none
  deriving DecidableEq, Inhabited

namespace ResourceRef

/-- Name and namespace may be absent, but not null. -/
def ofJson? (value : Json) : Option ResourceRef := do
  let r ← Json.Record.ofJson? ["name", "namespace", "external"] 0 value
  some {
    name := ← r.withDefault? "name" "" Json.asText?
    «namespace» := ← r.withDefault? "namespace" "" Json.asText?
    external := ← r.optional? "external" Json.asText? }

/-- An empty name or namespace is left out. -/
def toJson (r : ResourceRef) : Json :=
  .obj <|
    Json.nonemptyMember "name" r.name ++
    Json.nonemptyMember "namespace" r.namespace ++
    Json.member "external" (r.external.map .str)

end ResourceRef

/-- A key inside a secret. -/
structure SecretKeyRef where
  name : String := ""
  key : String := ""
  deriving DecidableEq, Inhabited

namespace SecretKeyRef

/-- Both fields may be absent, but not null. -/
def ofJson? (value : Json) : Option SecretKeyRef := do
  let r ← Json.Record.ofJson? ["name", "key"] 0 value
  some {
    name := ← r.withDefault? "name" "" Json.asText?
    key := ← r.withDefault? "key" "" Json.asText? }

/-- Both fields are written, empty ones as well. -/
def toJson (r : SecretKeyRef) : Json := .obj [("name", .str r.name), ("key", .str r.key)]

end SecretKeyRef

end SqlOperator
