import SqlOperator.Json.Record

/-!
# Schemas

A schema says which values a field of an object may have: a text, a list, or a
record with some required fields.
-/

namespace SqlOperator

/-- What a schema says beside the form of the values. -/
structure SchemaNotes where
  default : Option Json := none
  description : Option String := none
  nullable : Bool := false
  title : Option String := none
  deriving DecidableEq, Inhabited

/-- The values that a field may have. -/
inductive Schema where
  | text (notes : SchemaNotes)
  | list (notes : SchemaNotes) (element : Schema)
  | record (notes : SchemaNotes) (fields : List (String × Schema)) (required : List String)
  deriving Inhabited

namespace Schema

/-- A text that may be null. -/
def nullableText : Schema := .text { nullable := true }

/-- A text that must not be null. -/
def plainText : Schema := .text {}

/-- A schema as JSON, its members in ascending order. -/
def members (notes : SchemaNotes) (items properties : Option Json) (required : List String)
    (type : String) : Json :=
  .obj <|
    Json.member "default" notes.default ++
    Json.member "description" (notes.description.map .str) ++
    Json.member "items" items ++
    Json.member "nullable" (if notes.nullable then some (.bool true) else none) ++
    Json.member "properties" properties ++
    (if required.isEmpty then [] else [("required", .arr (required.map .str))]) ++
    Json.member "title" (notes.title.map .str) ++
    [("type", .str type)]

mutual

def toJson : Schema → Json
  | .text notes => members notes none none [] "string"
  | .list notes element => members notes (some element.toJson) none [] "array"
  | .record notes fields required =>
    members notes none (some (.obj (fieldsToJson fields))) required "object"

/-- The schemas of fields by their names, in order. -/
def fieldsToJson : List (String × Schema) → List (String × Json)
  | [] => []
  | (name, schema) :: rest => (name, schema.toJson) :: fieldsToJson rest

end

end Schema

end SqlOperator
