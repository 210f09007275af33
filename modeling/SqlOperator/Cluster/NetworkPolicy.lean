import SqlOperator.Cluster.Secret

/-!
# Network policies

A network policy selects pods by their labels and lists which traffic they may
send and receive.
-/

namespace SqlOperator

/-- A condition on one label of a pod or namespace. -/
structure LabelRequirement where
  key : String := ""
  operator : String := ""
  values : Option (List String) := none
  deriving DecidableEq, Inhabited

namespace LabelRequirement

def ofJson? : Json → Option LabelRequirement
  | .obj ms => do
    some {
      key := ← Json.presentOr? ms "key" "" Json.asText?
      operator := ← Json.presentOr? ms "operator" "" Json.asText?
      values := ← Json.present? ms "values" (Json.asList? Json.asText?) }
  | _ => none

def toJson (r : LabelRequirement) : Json :=
  .obj <|
    [("key", .str r.key), ("operator", .str r.operator)] ++
    Json.member "values" (r.values.map fun vs => .arr (vs.map .str))

end LabelRequirement

/-- Selects what has all these labels and meets all these conditions. -/
structure LabelSelector where
  matchExpressions : Option (List LabelRequirement) := none
  matchLabels : Option TextMap := none
  deriving DecidableEq, Inhabited

namespace LabelSelector

def ofJson? : Json → Option LabelSelector
  | .obj ms => do
    some {
      matchExpressions :=
        ← Json.present? ms "matchExpressions" (Json.asList? LabelRequirement.ofJson?)
      matchLabels := ← Json.present? ms "matchLabels" TextMap.ofJson? }
  | _ => none

def toJson (s : LabelSelector) : Json :=
  .obj <|
    Json.member "matchExpressions"
      (s.matchExpressions.map fun rs => .arr (rs.map LabelRequirement.toJson)) ++
    Json.member "matchLabels" (s.matchLabels.map TextMap.toJson)

end LabelSelector

/-- A block of addresses, less the blocks taken out of it. -/
structure IpBlock where
  cidr : String := ""
  excluded : Option (List String) := none
  deriving DecidableEq, Inhabited

namespace IpBlock

/-- The block is empty if it is absent or null. -/
def ofJson? : Json → Option IpBlock
  | .obj ms => do
    some {
      cidr := ← Json.presentOr? ms "cidr" "" Json.asText?
      excluded := ← Json.present? ms "except" (Json.asList? Json.asText?) }
  | _ => none

def toJson (b : IpBlock) : Json :=
  .obj <|
    [("cidr", .str b.cidr)] ++
    Json.member "except" (b.excluded.map fun vs => .arr (vs.map .str))

end IpBlock

/-- The other end of allowed traffic. -/
structure PolicyPeer where
  ipBlock : Option IpBlock := none
  namespaceSelector : Option LabelSelector := none
  podSelector : Option LabelSelector := none
  deriving DecidableEq, Inhabited

namespace PolicyPeer

def ofJson? : Json → Option PolicyPeer
  | .obj ms => do
    some {
      ipBlock := ← Json.present? ms "ipBlock" IpBlock.ofJson?
      namespaceSelector := ← Json.present? ms "namespaceSelector" LabelSelector.ofJson?
      podSelector := ← Json.present? ms "podSelector" LabelSelector.ofJson? }
  | _ => none

def toJson (p : PolicyPeer) : Json :=
  .obj <|
    Json.member "ipBlock" (p.ipBlock.map IpBlock.toJson) ++
    Json.member "namespaceSelector" (p.namespaceSelector.map LabelSelector.toJson) ++
    Json.member "podSelector" (p.podSelector.map LabelSelector.toJson)

end PolicyPeer

/-- A port by number or by name. -/
inductive PortName where
  | number (n : Int)
  | named (name : String)
  deriving DecidableEq, Inhabited

namespace PortName

/-- A text is a name, and an integer of 32 bits a number. -/
def ofJson? : Json → Option PortName
  | .str name => some (.named name)
  | value => (value.asInt32?).map .number

def toJson : PortName → Json
  | .number n => .int n
  | .named name => .str name

end PortName

/-- A port or range of ports. -/
structure PolicyPort where
  endPort : Option Int := none
  port : Option PortName := none
  protocol : Option String := none
  deriving DecidableEq, Inhabited

namespace PolicyPort

def ofJson? : Json → Option PolicyPort
  | .obj ms => do
    some {
      endPort := ← Json.present? ms "endPort" Json.asInt32?
      port := ← Json.present? ms "port" PortName.ofJson?
      protocol := ← Json.present? ms "protocol" Json.asText? }
  | _ => none

def toJson (p : PolicyPort) : Json :=
  .obj <|
    Json.member "endPort" (p.endPort.map .int) ++
    Json.member "port" (p.port.map PortName.toJson) ++
    Json.member "protocol" (p.protocol.map .str)

end PolicyPort

/-- Traffic that pods may send. -/
structure EgressRule where
  ports : Option (List PolicyPort) := none
  destinations : Option (List PolicyPeer) := none
  deriving DecidableEq, Inhabited

namespace EgressRule

def ofJson? : Json → Option EgressRule
  | .obj ms => do
    some {
      ports := ← Json.present? ms "ports" (Json.asList? PolicyPort.ofJson?)
      destinations := ← Json.present? ms "to" (Json.asList? PolicyPeer.ofJson?) }
  | _ => none

def toJson (r : EgressRule) : Json :=
  .obj <|
    Json.member "ports" (r.ports.map fun ps => .arr (ps.map PolicyPort.toJson)) ++
    Json.member "to" (r.destinations.map fun ps => .arr (ps.map PolicyPeer.toJson))

end EgressRule

/-- Traffic that pods may receive. -/
structure IngressRule where
  sources : Option (List PolicyPeer) := none
  ports : Option (List PolicyPort) := none
  deriving DecidableEq, Inhabited

namespace IngressRule

def ofJson? : Json → Option IngressRule
  | .obj ms => do
    some {
      sources := ← Json.present? ms "from" (Json.asList? PolicyPeer.ofJson?)
      ports := ← Json.present? ms "ports" (Json.asList? PolicyPort.ofJson?) }
  | _ => none

def toJson (r : IngressRule) : Json :=
  .obj <|
    Json.member "from" (r.sources.map fun ps => .arr (ps.map PolicyPeer.toJson)) ++
    Json.member "ports" (r.ports.map fun ps => .arr (ps.map PolicyPort.toJson))

end IngressRule

/-- Which pods a policy is about, and which traffic it allows them. -/
structure PolicySpec where
  egress : Option (List EgressRule) := none
  ingress : Option (List IngressRule) := none
  podSelector : LabelSelector := {}
  policyTypes : Option (List String) := none
  deriving DecidableEq, Inhabited

namespace PolicySpec

/-- A selector that is absent or null has no conditions. -/
def ofJson? : Json → Option PolicySpec
  | .obj ms => do
    some {
      egress := ← Json.present? ms "egress" (Json.asList? EgressRule.ofJson?)
      ingress := ← Json.present? ms "ingress" (Json.asList? IngressRule.ofJson?)
      podSelector := ← Json.presentOr? ms "podSelector" {} LabelSelector.ofJson?
      policyTypes := ← Json.present? ms "policyTypes" (Json.asList? Json.asText?) }
  | _ => none

def toJson (s : PolicySpec) : Json :=
  .obj <|
    Json.member "egress" (s.egress.map fun rs => .arr (rs.map EgressRule.toJson)) ++
    Json.member "ingress" (s.ingress.map fun rs => .arr (rs.map IngressRule.toJson)) ++
    [("podSelector", s.podSelector.toJson)] ++
    Json.member "policyTypes" (s.policyTypes.map fun ts => .arr (ts.map .str))

end PolicySpec

/-- An object that says which traffic pods may send and receive. -/
structure NetworkPolicy where
  metadata : Metadata := {}
  spec : Option PolicySpec := none
  deriving DecidableEq, Inhabited

namespace NetworkPolicy

/-- An object need not say that it is a policy, but must not say that it is something
else. -/
def ofJson? : Json → Option NetworkPolicy
  | .obj ms =>
    if Json.declares ms "apiVersion" "networking.k8s.io/v1" &&
        Json.declares ms "kind" "NetworkPolicy" then do
      some {
        metadata := ← Json.presentOr? ms "metadata" {} Metadata.ofJson?
        spec := ← Json.present? ms "spec" PolicySpec.ofJson? }
    else none
  | _ => none

def toJson (p : NetworkPolicy) : Json :=
  .obj <|
    [("apiVersion", .str "networking.k8s.io/v1"), ("kind", .str "NetworkPolicy"),
      ("metadata", p.metadata.toJson)] ++
    Json.member "spec" (p.spec.map PolicySpec.toJson)

end NetworkPolicy

end SqlOperator
