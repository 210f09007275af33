import SqlOperator.Json.Value
import SqlOperator.Number.Shortest
import SqlOperator.Text.Split

/-!
# YAML documents

A value is written in block form: one line for each member and element, the
members of a nested object two blanks further in, the elements of a list at the
place of its name. Empty objects and lists are written in brackets.
-/

namespace SqlOperator.Yaml

/-- A character that means itself wherever it stands. -/
def isPlainCharacter (c : Char) : Bool := c.isAlphanum || c ∈ ['.', '/', '_', '-', '\x60', ' ']

/-- Words that are not texts when they are not quoted. -/
def reserved : List String := ["true", "false", "null", "yes", "no", "on", "off", "y", "n"]

/-- Whether a text can be written without quotes. -/
def isPlain (text : String) : Bool :=
  text.toList.all isPlainCharacter && !reserved.contains text.toLower &&
    text.toList.head?.any Char.isAlpha && text.toList.getLast?.all (· != ' ')

/-- A text, in single quotes where it takes them. -/
def scalar (text : String) : String :=
  if isPlain text then text
  else
    String.ofList
      ('\'' :: (text.toList.flatMap (fun c => if c = '\'' then [c, c] else [c]) ++ ['\'']))

mutual

/-- The lines of a value, the first of which follows on what stands before it. -/
def lines : Json → List String
  | .null | .invalid => ["null"]
  | .bool value => [toString value]
  | .int n => [toString n]
  | .float value => [String.ofList value.render]
  | .str text => [scalar text]
  | .arr [] => ["[]"]
  | .arr (x :: xs) => elementLines (x :: xs)
  | .obj [] => ["\x7b\x7d"]
  | .obj (m :: ms) => memberLines (m :: ms)

/-- The lines of the elements of a list. -/
def elementLines : List Json → List String
  | [] => []
  | x :: xs =>
    (match lines x with
      | [] => []
      | first :: rest => ("- " ++ first) :: rest.map ("  " ++ ·)) ++ elementLines xs

/-- The lines of the members of an object. -/
def memberLines : List (String × Json) → List String
  | [] => []
  | (name, value) :: ms =>
    (match value with
      | .obj (m :: more) =>
        (scalar name ++ ":") :: (memberLines (m :: more)).map ("  " ++ ·)
      | .arr (x :: xs) => (scalar name ++ ":") :: elementLines (x :: xs)
      | other => (lines other).map ((scalar name ++ ": ") ++ ·)) ++ memberLines ms

end

/-- A value as a document. -/
def document (value : Json) : String :=
  String.join ((lines value).map (· ++ "\n"))

end SqlOperator.Yaml
