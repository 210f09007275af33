import SqlOperator.Cluster.Source
import SqlOperator.Schema.Basic

/-!
# Definitions of custom resources

The kinds of SQL resources are not built into a cluster. Their definitions, as
far as the operator reads the objects, let a cluster store them without the
software that usually defines them.
-/

namespace SqlOperator.Definition

/-- A reference to another resource. -/
def resourceRef (nullable : Bool) : Schema :=
  .record
    { description := some "Reference to another config-connector resource.", nullable }
    [("external", .nullableText), ("name", .plainText), ("namespace", .plainText)] []

/-- A record that may be null. -/
def nullableRecord (fields : List (String × Schema)) : Schema :=
  .record { nullable := true } fields []

/-- What is read of a certificate. -/
def certificateFields : List (String × Schema) :=
  [("spec",
      .record {} [("commonName", .plainText), ("instanceRef", resourceRef false)]
        ["commonName", "instanceRef"]),
    ("status",
      nullableRecord
        [("cert", .nullableText), ("privateKey", .nullableText),
          ("serverCaCert", .nullableText)])]

/-- What is read of an instance. -/
def instanceFields : List (String × Schema) :=
  [("spec",
      .record {}
        [("resourceID", .nullableText),
          ("settings",
            .record { default := some (.obj []) }
              [("ipConfiguration", nullableRecord [("privateNetworkRef", resourceRef true)])]
              [])]
        []),
    ("status",
      nullableRecord
        [("ipAddress",
            .list {}
              (.record {} [("ipAddress", .nullableText), ("type", .nullableText)] [])),
          ("privateIpAddress", .nullableText)])]

/-- What is read of a user. -/
def userFields : List (String × Schema) :=
  let key : Schema := .text { default := some (.str "") }
  [("spec",
      .record {}
        [("instanceRef", resourceRef false),
          ("password",
            nullableRecord
              [("valueFrom",
                nullableRecord [("secretKeyRef", nullableRecord [("key", key), ("name", key)])])]),
          ("resourceID", .nullableText)]
        ["instanceRef"])]

/-- The name of the type of objects in schemas. -/
def typeName : Source → String
  | .certificate => "SqlSslCert"
  | .sqlInstance => "SqlInstance"
  | .user => "SqlUser"

/-- What is read of the objects. -/
def fields : Source → List (String × Schema)
  | .certificate => certificateFields
  | .sqlInstance => instanceFields
  | .user => userFields

/-- The schema of the objects. -/
def schema (s : Source) : Schema :=
  .record
    { title := some (typeName s)
      description :=
        some ("Auto-generated derived type for " ++ typeName s ++
          "Spec via \x60CustomResource\x60") }
    (fields s) ["spec"]

/-- The name of one object. -/
def singular (s : Source) : String := s.kind.name.toLower

/-- Whether the status is written apart from the rest. -/
def hasStatus (s : Source) : Bool := (fields s).any (·.1 = "status")

/-- The one version of the objects, which is both served and stored. -/
def versionToJson (s : Source) : Json :=
  .obj
    [("additionalPrinterColumns", .arr []),
      ("name", .str s.kind.version),
      ("schema", .obj [("openAPIV3Schema", (schema s).toJson)]),
      ("served", .bool true),
      ("storage", .bool true),
      ("subresources", .obj (if hasStatus s then [("status", .obj [])] else []))]

/-- The names of the objects; there are no short ones. -/
def namesToJson (s : Source) : Json :=
  .obj
    [("categories", .arr []),
      ("kind", .str s.kind.name),
      ("plural", .str s.kind.plural),
      ("shortNames", .arr []),
      ("singular", .str (singular s))]

/-- The definition of a kind of sources as an object. -/
def toJson (s : Source) : Json :=
  .obj
    [("apiVersion", .str "apiextensions.k8s.io/v1"),
      ("kind", .str "CustomResourceDefinition"),
      ("metadata", .obj [("name", .str (s.kind.plural ++ "." ++ s.kind.group))]),
      ("spec",
        .obj
          [("group", .str s.kind.group),
            ("names", namesToJson s),
            ("scope", .str "Namespaced"),
            ("versions", .arr [versionToJson s])])]

end SqlOperator.Definition
