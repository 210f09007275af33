import SqlOperator.Sql.ResourceRef

/-!
# Database instances

Of an instance the operator reads its identifier, whether it is set up for
private addresses, and the addresses that have been assigned to it.
-/

namespace SqlOperator

/-- How an instance can be reached. -/
structure IpConfiguration where
  privateNetworkRef : Option ResourceRef := none
  deriving DecidableEq, Inhabited

namespace IpConfiguration

def ofJson? (value : Json) : Option IpConfiguration := do
  let r ← Json.Record.ofJson? ["privateNetworkRef"] 0 value
  some { privateNetworkRef := ← r.optional? "privateNetworkRef" ResourceRef.ofJson? }

def toJson (c : IpConfiguration) : Json :=
  .obj (Json.member "privateNetworkRef" (c.privateNetworkRef.map ResourceRef.toJson))

end IpConfiguration

/-- The settings of an instance, as far as they are read. -/
structure InstanceSettings where
  ipConfiguration : Option IpConfiguration := none
  deriving DecidableEq, Inhabited

namespace InstanceSettings

def ofJson? (value : Json) : Option InstanceSettings := do
  let r ← Json.Record.ofJson? ["ipConfiguration"] 0 value
  some { ipConfiguration := ← r.optional? "ipConfiguration" IpConfiguration.ofJson? }

def toJson (s : InstanceSettings) : Json :=
  .obj (Json.member "ipConfiguration" (s.ipConfiguration.map IpConfiguration.toJson))

end InstanceSettings

/-- The identifier of an instance, and its settings. -/
structure InstanceSpec where
  resourceId : Option String := none
  settings : InstanceSettings := {}
  deriving DecidableEq, Inhabited

namespace InstanceSpec

/-- The settings may be absent, but not null. -/
def ofJson? (value : Json) : Option InstanceSpec := do
  let r ← Json.Record.ofJson? ["resourceID", "settings"] 0 value
  some {
    resourceId := ← r.optional? "resourceID" Json.asText?
    settings := ← r.withDefault? "settings" {} InstanceSettings.ofJson? }

/-- Settings are written even if there is nothing in them. -/
def toJson (s : InstanceSpec) : Json :=
  .obj (Json.member "resourceID" (s.resourceId.map .str) ++ [("settings", s.settings.toJson)])

end InstanceSpec

/-- An address of an instance and the kind of network it belongs to. -/
structure InstanceAddress where
  address : Option String := none
  type : Option String := none
  deriving DecidableEq, Inhabited

namespace InstanceAddress

def ofJson? (value : Json) : Option InstanceAddress := do
  let r ← Json.Record.ofJson? ["ipAddress", "type"] 0 value
  some {
    address := ← r.optional? "ipAddress" Json.asText?
    type := ← r.optional? "type" Json.asText? }

def toJson (a : InstanceAddress) : Json :=
  .obj (Json.member "ipAddress" (a.address.map .str) ++ Json.member "type" (a.type.map .str))

end InstanceAddress

/-- The addresses that have been assigned to an instance. -/
structure InstanceStatus where
  addresses : List InstanceAddress := []
  privateAddress : Option String := none
  deriving DecidableEq, Inhabited

namespace InstanceStatus

/-- The list of addresses may be absent, but not null. -/
def ofJson? (value : Json) : Option InstanceStatus := do
  let r ← Json.Record.ofJson? ["ipAddress", "privateIpAddress"] 0 value
  some {
    addresses := ← r.withDefault? "ipAddress" [] (Json.asList? InstanceAddress.ofJson?)
    privateAddress := ← r.optional? "privateIpAddress" Json.asText? }

/-- An empty list of addresses is left out. -/
def toJson (s : InstanceStatus) : Json :=
  .obj <|
    (if s.addresses.isEmpty then []
      else [("ipAddress", .arr (s.addresses.map InstanceAddress.toJson))]) ++
    Json.member "privateIpAddress" (s.privateAddress.map .str)

end InstanceStatus

/-- An instance resource. -/
structure Instance where
  metadata : Metadata
  spec : InstanceSpec
  status : Option InstanceStatus := none
  deriving DecidableEq, Inhabited

namespace Instance

/-- Only the status may be absent. -/
def ofJson? (value : Json) : Option Instance := do
  let r ← Json.Record.ofJson? ["metadata", "spec", "status"] 3 value
  some {
    metadata := ← r.required? "metadata" Metadata.ofJson?
    spec := ← r.required? "spec" InstanceSpec.ofJson?
    status := ← r.optional? "status" InstanceStatus.ofJson? }

def toJson (i : Instance) : Json :=
  .obj <|
    [("apiVersion", .str "sql.cnrm.cloud.google.com/v1beta1"), ("kind", .str "SQLInstance"),
      ("metadata", i.metadata.toJson), ("spec", i.spec.toJson)] ++
    Json.member "status" (i.status.map InstanceStatus.toJson)

/-- The private network that the instance is set up for. -/
def privateNetworkRef? (i : Instance) : Option ResourceRef :=
  i.spec.settings.ipConfiguration.bind (·.privateNetworkRef)

/-- The private address; an empty one counts as not assigned. -/
def privateAddress? (i : Instance) : Option String :=
  (i.status.bind (·.privateAddress)).filter fun address => !address.isEmpty

end Instance

end SqlOperator
