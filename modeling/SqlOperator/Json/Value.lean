import SqlOperator.Number.Double

/-!
# JSON values

Objects keep their members in written order, repeated names included, because
some readers refuse a repeated name and others take the last one. A number is an
`int` when it is written as an integer of 64 bits, and of double precision else.
A document can be well formed although a part of it stands for no value: a text
with half of a surrogate pair, a number out of range, an object that has such a
text for a name. That part matters only to those who read it.
-/

namespace SqlOperator

/-- A JSON value, as it was written or is to be written. -/
inductive Json where
  | null
  | bool (value : Bool)
  | int (value : Int)
  | float (value : Double)
  | str (text : String)
  | arr (elements : List Json)
  | obj (members : List (String × Json))
  /-- Stands for no value. -/
  | invalid
  deriving Inhabited

namespace Json

mutual

/-- Two values are equal if they have one form and the same parts in the same order. -/
def decEq : (a b : Json) → Decidable (a = b)
  | .null, .null => isTrue rfl
  | .bool a, .bool b =>
    if h : a = b then isTrue (by rw [h]) else isFalse (by simpa using h)
  | .int a, .int b =>
    if h : a = b then isTrue (by rw [h]) else isFalse (by simpa using h)
  | .float a, .float b =>
    if h : a = b then isTrue (by rw [h]) else isFalse (by simpa using h)
  | .str a, .str b =>
    if h : a = b then isTrue (by rw [h]) else isFalse (by simpa using h)
  | .arr a, .arr b =>
    match decEqList a b with
    | isTrue h => isTrue (by rw [h])
    | isFalse h => isFalse (by simpa using h)
  | .obj a, .obj b =>
    match decEqMembers a b with
    | isTrue h => isTrue (by rw [h])
    | isFalse h => isFalse (by simpa using h)
  | .invalid, .invalid => isTrue rfl
  | .null, .bool _ | .null, .int _ | .null, .float _ | .null, .str _ | .null, .arr _
  | .null, .obj _ | .null, .invalid | .bool _, .null | .bool _, .int _ | .bool _, .float _
  | .bool _, .str _ | .bool _, .arr _ | .bool _, .obj _ | .bool _, .invalid | .int _, .null
  | .int _, .bool _ | .int _, .float _ | .int _, .str _ | .int _, .arr _ | .int _, .obj _
  | .int _, .invalid | .float _, .null | .float _, .bool _ | .float _, .int _ | .float _, .str _
  | .float _, .arr _ | .float _, .obj _ | .float _, .invalid | .str _, .null | .str _, .bool _
  | .str _, .int _ | .str _, .float _ | .str _, .arr _ | .str _, .obj _ | .str _, .invalid
  | .arr _, .null | .arr _, .bool _ | .arr _, .int _ | .arr _, .float _ | .arr _, .str _
  | .arr _, .obj _ | .arr _, .invalid | .obj _, .null | .obj _, .bool _ | .obj _, .int _
  | .obj _, .float _ | .obj _, .str _ | .obj _, .arr _ | .obj _, .invalid | .invalid, .null
  | .invalid, .bool _ | .invalid, .int _ | .invalid, .float _ | .invalid, .str _
  | .invalid, .arr _ | .invalid, .obj _ => isFalse (by simp)

def decEqList : (a b : List Json) → Decidable (a = b)
  | [], [] => isTrue rfl
  | [], _ :: _ | _ :: _, [] => isFalse (by simp)
  | x :: xs, y :: ys =>
    match decEq x y, decEqList xs ys with
    | isTrue h, isTrue hs => isTrue (by rw [h, hs])
    | isFalse h, _ => isFalse (by simp [h])
    | _, isFalse hs => isFalse (by simp [hs])

def decEqMembers : (a b : List (String × Json)) → Decidable (a = b)
  | [], [] => isTrue rfl
  | [], _ :: _ | _ :: _, [] => isFalse (by simp)
  | (k, x) :: xs, (l, y) :: ys =>
    if hk : k = l then
      match decEq x y, decEqMembers xs ys with
      | isTrue h, isTrue hs => isTrue (by rw [hk, h, hs])
      | isFalse h, _ => isFalse (by simp [h])
      | _, isFalse hs => isFalse (by simp [hs])
    else isFalse (by simp [hk])

end

instance : DecidableEq Json := decEq

end Json

end SqlOperator
