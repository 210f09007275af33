import SqlOperator.Json.Value
import SqlOperator.Number.Shortest
import SqlOperator.Text.Hex

/-!
# Writing JSON

A value is written without blanks. In a text, quotes, backslashes and control
characters are escaped, with the short escape where there is one. In place of
what stands for no value null is written.
-/

namespace SqlOperator.Json

/-- The written form of a character inside a text. -/
def escape (c : Char) : List Char :=
  match c with
  | '\x22' => ['\\', '\x22']
  | '\\' => ['\\', '\\']
  | '\n' => ['\\', 'n']
  | '\r' => ['\\', 'r']
  | '\t' => ['\\', 't']
  | '\x08' => ['\\', 'b']
  | '\x0c' => ['\\', 'f']
  | _ =>
    if c.toNat < 0x20 then
      ['\\', 'u', '0', '0', Text.Hex.lower (c.toNat / 16), Text.Hex.lower (c.toNat % 16)]
    else [c]

/-- A text in quotes. -/
def quote (text : String) : List Char :=
  '\x22' :: (text.toList.flatMap escape ++ ['\x22'])

mutual

/-- The written form of a value. -/
def write : Json → List Char
  | .null | .invalid => ['n', 'u', 'l', 'l']
  | .bool true => ['t', 'r', 'u', 'e']
  | .bool false => ['f', 'a', 'l', 's', 'e']
  | .int n => (toString n).toList
  | .float value => value.render
  | .str text => quote text
  | .arr elements => '[' :: (writeElements elements ++ [']'])
  | .obj members => '\x7b' :: (writeMembers members ++ ['\x7d'])

/-- Elements with commas between them. -/
def writeElements : List Json → List Char
  | [] => []
  | [x] => write x
  | x :: y :: rest => write x ++ ',' :: writeElements (y :: rest)

/-- Members with commas between them, each with its name in front. -/
def writeMembers : List (String × Json) → List Char
  | [] => []
  | [(name, x)] => quote name ++ ':' :: write x
  | (name, x) :: y :: rest => quote name ++ ':' :: (write x ++ ',' :: writeMembers (y :: rest))

end

/-- The written form of a value as one text. -/
def render (value : Json) : String := String.ofList (write value)

end SqlOperator.Json
