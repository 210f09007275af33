import SqlOperator.SortedMap
import SqlOperator.Cluster.Timestamp
import SqlOperator.Json.Record

/-!
# Object metadata

What every object of the cluster carries beside its payload: names, labels,
annotations, owners, and the stamps that the server sets. Absent and empty maps
differ, since both are written back as they are.
-/

namespace SqlOperator

/-- Labels and annotations. -/
abbrev TextMap := SortedMap String String

namespace TextMap

/-- Every value has to be a text. The last value of a repeated key counts. -/
def ofJson? : Json → Option TextMap
  | .obj members =>
    (members.mapM fun (m : String × Json) => m.2.asText?.map (m.1, ·)).map SortedMap.ofList
  | _ => none

def toJson (m : TextMap) : Json := .obj (m.entries.map fun (key, value) => (key, .str value))

end TextMap

/-- A reference from an object to one that owns it. -/
structure OwnerReference where
  apiVersion : String := ""
  kind : String := ""
  name : String := ""
  uid : String := ""
  controller : Option Bool := none
  blockOwnerDeletion : Option Bool := none
  deriving DecidableEq, Inhabited

namespace OwnerReference

/-- A text that is absent or null is empty. -/
def ofJson? : Json → Option OwnerReference
  | .obj ms => do
    some {
      apiVersion := ← Json.presentOr? ms "apiVersion" "" Json.asText?
      kind := ← Json.presentOr? ms "kind" "" Json.asText?
      name := ← Json.presentOr? ms "name" "" Json.asText?
      uid := ← Json.presentOr? ms "uid" "" Json.asText?
      controller := ← Json.present? ms "controller" Json.asBool?
      blockOwnerDeletion := ← Json.present? ms "blockOwnerDeletion" Json.asBool? }
  | _ => none

def toJson (o : OwnerReference) : Json :=
  .obj <|
    [("apiVersion", .str o.apiVersion)] ++
    Json.member "blockOwnerDeletion" (o.blockOwnerDeletion.map .bool) ++
    Json.member "controller" (o.controller.map .bool) ++
    [("kind", .str o.kind), ("name", .str o.name), ("uid", .str o.uid)]

end OwnerReference

/-- A record of which fields a manager has set. -/
structure ManagedFields where
  apiVersion : Option String := none
  fieldsType : Option String := none
  fields : Option Json := none
  manager : Option String := none
  operation : Option String := none
  subresource : Option String := none
  time : Option Timestamp := none
  deriving DecidableEq, Inhabited

/-- A point in time written as a text. -/
def Timestamp.ofJson? (value : Json) : Option Timestamp := value.asText?.bind Timestamp.parse?

/-- A point in time in UTC. -/
def Timestamp.toJson (t : Timestamp) : Json := .str t.render

namespace ManagedFields

/-- A value of any kind with at most so many levels of lists and objects, the
members of its objects in order and of repeated ones the last. -/
def anyOfJson? : Nat → Json → Option Json
  | _, .invalid | 0, .arr _ | 0, .obj _ => none
  | depth + 1, .arr elements => (elements.mapM (anyOfJson? depth)).map .arr
  | depth + 1, .obj members =>
    (members.mapM fun (m : String × Json) => (anyOfJson? depth m.2).map (m.1, ·)).map fun ms =>
      .obj (SortedMap.ofList ms).entries
  | _, value => some value

/-- A document has at most 127 levels, four of which are around the fields of a
manager. Everywhere else the kind of the object says how deep a value goes. -/
def levels : Nat := 123

/-- Every field may be absent or null. -/
def ofJson? : Json → Option ManagedFields
  | .obj ms => do
    some {
      apiVersion := ← Json.present? ms "apiVersion" Json.asText?
      fieldsType := ← Json.present? ms "fieldsType" Json.asText?
      fields := ← Json.present? ms "fieldsV1" (anyOfJson? levels)
      manager := ← Json.present? ms "manager" Json.asText?
      operation := ← Json.present? ms "operation" Json.asText?
      subresource := ← Json.present? ms "subresource" Json.asText?
      time := ← Json.present? ms "time" Timestamp.ofJson? }
  | _ => none

def toJson (m : ManagedFields) : Json :=
  .obj <|
    Json.member "apiVersion" (m.apiVersion.map .str) ++
    Json.member "fieldsType" (m.fieldsType.map .str) ++
    Json.member "fieldsV1" m.fields ++
    Json.member "manager" (m.manager.map .str) ++
    Json.member "operation" (m.operation.map .str) ++
    Json.member "subresource" (m.subresource.map .str) ++
    Json.member "time" (m.time.map Timestamp.toJson)

end ManagedFields

/-- The metadata of an object. -/
structure Metadata where
  annotations : Option TextMap := none
  creationTimestamp : Option Timestamp := none
  deletionGracePeriodSeconds : Option Int := none
  deletionTimestamp : Option Timestamp := none
  finalizers : Option (List String) := none
  generateName : Option String := none
  generation : Option Int := none
  labels : Option TextMap := none
  managedFields : Option (List ManagedFields) := none
  name : Option String := none
  «namespace» : Option String := none
  ownerReferences : Option (List OwnerReference) := none
  resourceVersion : Option String := none
  selfLink : Option String := none
  uid : Option String := none
  deriving DecidableEq, Inhabited

namespace Metadata

/-- Every field may be absent or null. -/
def ofJson? : Json → Option Metadata
  | .obj ms => do
    some {
      annotations := ← Json.present? ms "annotations" TextMap.ofJson?
      creationTimestamp := ← Json.present? ms "creationTimestamp" Timestamp.ofJson?
      deletionGracePeriodSeconds := ← Json.present? ms "deletionGracePeriodSeconds" Json.asInt64?
      deletionTimestamp := ← Json.present? ms "deletionTimestamp" Timestamp.ofJson?
      finalizers := ← Json.present? ms "finalizers" (Json.asList? Json.asText?)
      generateName := ← Json.present? ms "generateName" Json.asText?
      generation := ← Json.present? ms "generation" Json.asInt64?
      labels := ← Json.present? ms "labels" TextMap.ofJson?
      managedFields := ← Json.present? ms "managedFields" (Json.asList? ManagedFields.ofJson?)
      name := ← Json.present? ms "name" Json.asText?
      «namespace» := ← Json.present? ms "namespace" Json.asText?
      ownerReferences :=
        ← Json.present? ms "ownerReferences" (Json.asList? OwnerReference.ofJson?)
      resourceVersion := ← Json.present? ms "resourceVersion" Json.asText?
      selfLink := ← Json.present? ms "selfLink" Json.asText?
      uid := ← Json.present? ms "uid" Json.asText? }
  | _ => none

/-- Absent fields are left out, and empty maps and lists are written. -/
def toJson (m : Metadata) : Json :=
  .obj <|
    Json.member "annotations" (m.annotations.map TextMap.toJson) ++
    Json.member "creationTimestamp" (m.creationTimestamp.map Timestamp.toJson) ++
    Json.member "deletionGracePeriodSeconds" (m.deletionGracePeriodSeconds.map .int) ++
    Json.member "deletionTimestamp" (m.deletionTimestamp.map Timestamp.toJson) ++
    Json.member "finalizers" (m.finalizers.map fun fs => .arr (fs.map .str)) ++
    Json.member "generateName" (m.generateName.map .str) ++
    Json.member "generation" (m.generation.map .int) ++
    Json.member "labels" (m.labels.map TextMap.toJson) ++
    Json.member "managedFields"
      (m.managedFields.map fun fs => .arr (fs.map ManagedFields.toJson)) ++
    Json.member "name" (m.name.map .str) ++
    Json.member "namespace" (m.namespace.map .str) ++
    Json.member "ownerReferences"
      (m.ownerReferences.map fun os => .arr (os.map OwnerReference.toJson)) ++
    Json.member "resourceVersion" (m.resourceVersion.map .str) ++
    Json.member "selfLink" (m.selfLink.map .str) ++
    Json.member "uid" (m.uid.map .str)

/-- The name, or the stem of a name that the server is to complete. -/
def anyName (m : Metadata) : String := m.name.getD (m.generateName.getD "")

/-- The value of an annotation. -/
def annotation? (m : Metadata) (key : String) : Option String :=
  m.annotations.bind (·.get? key)

/-- The value of a label. -/
def label? (m : Metadata) (key : String) : Option String :=
  m.labels.bind (·.get? key)

/-- The labels, empty ones if there are none yet. -/
def labelsOrEmpty (m : Metadata) : TextMap := m.labels.getD .empty

/-- The annotations, empty ones if there are none yet. -/
def annotationsOrEmpty (m : Metadata) : TextMap := m.annotations.getD .empty

/-- Set a label, in new labels if there are none yet. -/
def setLabel (m : Metadata) (key value : String) : Metadata :=
  { m with labels := some (m.labelsOrEmpty.insert key value) }

/-- Set an annotation, in new annotations if there are none yet. -/
def setAnnotation (m : Metadata) (key value : String) : Metadata :=
  { m with annotations := some (m.annotationsOrEmpty.insert key value) }

end Metadata

end SqlOperator
