import SqlOperator.Cluster.Metadata
import SqlOperator.Text.Base64

/-!
# Secrets

A secret holds named byte strings. In JSON they are written in standard base64
with padding, and a null entry stands for no bytes.
-/

namespace SqlOperator

/-- The values of a secret by name. -/
abbrev SecretData := SortedMap String Bytes

namespace SecretData

/-- The bytes of an entry; null stands for none. -/
def valueOfJson? : Json → Option Bytes
  | .null => some []
  | .str text => Text.Base64.decode? .standard text.toList
  | _ => none

/-- Every entry has to be base64 text or null. -/
def ofJson? : Json → Option SecretData
  | .obj members =>
    (members.mapM fun (m : String × Json) => (valueOfJson? m.2).map (m.1, ·)).map
      SortedMap.ofList
  | _ => none

/-- Bytes as base64 text, also if there are none. -/
def valueToJson (bytes : Bytes) : Json :=
  .str (String.ofList (Text.Base64.encode .standard true bytes))

def toJson (data : SecretData) : Json :=
  .obj (data.entries.map fun (key, value) => (key, valueToJson value))

/-- The text under `key`, if there is an entry and it is valid UTF-8. -/
def text? (data : SecretData) (key : String) : Option String :=
  (data.get? key).bind Bytes.toText?

end SecretData

/-- An object that holds byte strings by name. -/
structure Secret where
  metadata : Metadata := {}
  data : Option SecretData := none
  immutable : Option Bool := none
  stringData : Option TextMap := none
  type : Option String := none
  deriving DecidableEq, Inhabited

namespace Secret

/-- An object need not say that it is a secret, but must not say that it is something
else. -/
def ofJson? : Json → Option Secret
  | .obj ms =>
    if Json.declares ms "apiVersion" "v1" && Json.declares ms "kind" "Secret" then do
      some {
        metadata := ← Json.presentOr? ms "metadata" {} Metadata.ofJson?
        data := ← Json.present? ms "data" SecretData.ofJson?
        immutable := ← Json.present? ms "immutable" Json.asBool?
        stringData := ← Json.present? ms "stringData" TextMap.ofJson?
        type := ← Json.present? ms "type" Json.asText? }
    else none
  | _ => none

def toJson (s : Secret) : Json :=
  .obj <|
    [("apiVersion", .str "v1"), ("kind", .str "Secret")] ++
    Json.member "data" (s.data.map SecretData.toJson) ++
    Json.member "immutable" (s.immutable.map .bool) ++
    [("metadata", s.metadata.toJson)] ++
    Json.member "stringData" (s.stringData.map TextMap.toJson) ++
    Json.member "type" (s.type.map .str)

end Secret

end SqlOperator
