import SqlOperator.Json.Value

/-!
# Reading records

Two conventions for the fields of an object meet here. The schemas of custom
resources refuse a repeated field, tell an absent field from a null one, and
take a list in place of an object, its elements in field order. The built-in
kinds take the last of repeated fields and read null as absent.
-/

namespace SqlOperator.Json

/-- The text of a text value. -/
def asText? : Json → Option String
  | .str text => some text
  | _ => none

def asBool? : Json → Option Bool
  | .bool value => some value
  | _ => none

/-- An integer between the bounds, both included. -/
def asInt? (least greatest : Int) : Json → Option Int
  | .int n => if least ≤ n ∧ n ≤ greatest then some n else none
  | _ => none

/-- A signed integer of 64 bits. -/
def asInt64? : Json → Option Int := asInt? (-0x8000000000000000) 0x7fffffffffffffff

/-- A signed integer of 32 bits. -/
def asInt32? : Json → Option Int := asInt? (-0x80000000) 0x7fffffff

/-- The elements of a list, if every one of them has a value. -/
def asList? (element? : Json → Option α) : Json → Option (List α)
  | .arr elements => elements.mapM element?
  | _ => none

/-- A field read as absent when it is null. -/
def nullable? (value? : Json → Option α) : Json → Option (Option α)
  | .null => some none
  | value => (value? value).map some

/-- Named fields of a record, each at most once. -/
structure Record where
  fields : List (String × Json)

namespace Record

/-- The fields of an object among `names`, none of them repeated, or the
elements of a list of at least `least` elements, named in order. -/
def ofJson? (names : List String) (least : Nat) : Json → Option Record
  | .obj members =>
    let known := members.filter fun m => names.contains m.1
    if (known.map (·.1)).Nodup then some ⟨known⟩ else none
  | .arr elements =>
    if least ≤ elements.length ∧ elements.length ≤ names.length then
      some ⟨names.zip elements⟩
    else none
  | _ => none

/-- The value of a field, null included. -/
def get? (r : Record) (name : String) : Option Json := r.fields.lookup name

/-- A field that has to be there. -/
def required? (r : Record) (name : String) (value? : Json → Option α) : Option α :=
  (r.get? name).bind value?

/-- A field with a value of its own when it is absent, but not null. -/
def withDefault? (r : Record) (name : String) (default : α) (value? : Json → Option α) :
    Option α :=
  match r.get? name with
  | none => some default
  | some value => value? value

/-- A field that may be absent or null. -/
def optional? (r : Record) (name : String) (value? : Json → Option α) : Option (Option α) :=
  r.withDefault? name none (nullable? value?)

end Record

/-- The value of the last member of that name, absent when it is null. A member
that a later one replaces has to have a value as well. -/
def present? (members : List (String × Json)) (name : String) (value? : Json → Option α) :
    Option (Option α) :=
  ((members.filter (·.1 = name)).mapM fun m => nullable? value? m.2).map (·.getLast?.join)

/-- The value of the last member of that name, with a default when it is absent or null. -/
def presentOr? (members : List (String × Json)) (name : String) (default : α)
    (value? : Json → Option α) : Option α :=
  (present? members name value?).map (·.getD default)

/-- A member unless its value is absent. -/
def member (name : String) (value : Option Json) : List (String × Json) :=
  match value with
  | none => []
  | some value => [(name, value)]

/-- A text member that is left out when it is empty. -/
def nonemptyMember (name text : String) : List (String × Json) :=
  if text.isEmpty then [] else [(name, .str text)]

/-- Whether a member has the given text wherever it is written. -/
def declares (members : List (String × Json)) (name text : String) : Bool :=
  members.all fun m => m.1 != name || m.2 = .str text

end SqlOperator.Json
