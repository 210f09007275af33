import SqlOperator.Json.Numeral
import SqlOperator.Text.Hex

/-!
# Reading JSON

`Json.parse?` reads one value with blanks around it and nothing else. A text
holds no raw control character, and an escaped surrogate counts only as half of
a pair: without its other half it is well formed, but no character. Every step of
the reader consumes input, so a depth of twice the length of the input is never
used up.
-/

namespace SqlOperator.Json

/-- The characters that may stand between the parts of a value. -/
def isBlank (c : Char) : Bool := c = ' ' || c = '\n' || c = '\t' || c = '\r'

def skipBlanks (cs : List Char) : List Char := cs.dropWhile isBlank

/-- The number written with four hexadecimal digits, and the rest. -/
def readHex4? : List Char → Option (Nat × List Char)
  | a :: b :: c :: d :: rest => (Text.Hex.toNat? [a, b, c, d]).map (·, rest)
  | _ => none

/-- The lower half of a surrogate pair, and the rest. -/
def readLowHalf? : List Char → Option (Nat × List Char)
  | '\\' :: 'u' :: rest =>
    (readHex4? rest).bind fun (low, rest) =>
      if 0xdc00 ≤ low ∧ low < 0xe000 then some (low - 0xdc00, rest) else none
  | _ => none

/-- The character of an escape after its backslash, or none for half of a
surrogate pair, and the rest. -/
def readEscape? : List Char → Option (Option Char × List Char)
  | 'u' :: rest =>
    (readHex4? rest).map fun (code, rest) =>
      if 0xd800 ≤ code ∧ code < 0xdc00 then
        match readLowHalf? rest with
        | some (low, rest) => (some (Char.ofNat (0x10000 + (code - 0xd800) * 0x400 + low)), rest)
        | none => (none, rest)
      else if 0xdc00 ≤ code ∧ code < 0xe000 then (none, rest)
      else (some (Char.ofNat code), rest)
  | c :: rest =>
    match c with
    | '\x22' | '\\' | '/' => some (some c, rest)
    | 'b' => some (some '\x08', rest)
    | 'f' => some (some '\x0c', rest)
    | 'n' => some (some '\n', rest)
    | 'r' => some (some '\r', rest)
    | 't' => some (some '\t', rest)
    | _ => none
  | [] => none

/-- The text up to its closing quote, or none if it has half of a surrogate pair,
and the rest; `done?` is read already, backwards. -/
def readText? : Nat → Option (List Char) → List Char → Option (Option String × List Char)
  | 0, _, _ => none
  | _ + 1, _, [] => none
  | depth + 1, done?, c :: rest =>
    if c = '\x22' then some (done?.map (String.ofList ·.reverse), rest)
    else if c = '\\' then do
      let (escaped?, rest) ← readEscape? rest
      readText? depth (done?.bind fun done => escaped?.map (· :: done)) rest
    else if c.toNat < 0x20 then none
    else readText? depth (done?.map (c :: ·)) rest

/-- A text that has a value, or what stands for no value. -/
def ofText (text? : Option String) : Json := (text?.map Json.str).getD .invalid

/-- The object with these members, unless a name of them stands for no text. -/
def ofMembers (members : List (Option String × Json)) : Json :=
  (members.mapM fun (m : Option String × Json) => m.1.map (·, m.2)).elim .invalid .obj

/-- What is left after the characters of `word`. -/
def readWord? : List Char → List Char → Option (List Char)
  | [], cs => some cs
  | w :: word, c :: cs => if w = c then readWord? word cs else none
  | _ :: _, [] => none

mutual

/-- A value and the rest. -/
def readValue? : Nat → List Char → Option (Json × List Char)
  | 0, _ => none
  | depth + 1, cs =>
    match skipBlanks cs with
    | [] => none
    | '\x22' :: rest => (readText? depth (some []) rest).map fun (t, rest) => (ofText t, rest)
    | '[' :: rest =>
      match skipBlanks rest with
      | ']' :: rest => some (.arr [], rest)
      | _ => (readElements? depth rest).map fun (xs, rest) => (.arr xs, rest)
    | '\x7b' :: rest =>
      match skipBlanks rest with
      | '\x7d' :: rest => some (.obj [], rest)
      | _ => (readMembers? depth rest).map fun (ms, rest) => (ofMembers ms, rest)
    | 'n' :: rest => (readWord? ['u', 'l', 'l'] rest).map (.null, ·)
    | 't' :: rest => (readWord? ['r', 'u', 'e'] rest).map (.bool true, ·)
    | 'f' :: rest => (readWord? ['a', 'l', 's', 'e'] rest).map (.bool false, ·)
    | cs => (Numeral.read? cs).map fun (n, rest) => (n.value, rest)

/-- The elements up to the closing bracket, at least one, and the rest. -/
def readElements? : Nat → List Char → Option (List Json × List Char)
  | 0, _ => none
  | depth + 1, cs => do
    let (x, rest) ← readValue? depth cs
    match skipBlanks rest with
    | ']' :: rest => some ([x], rest)
    | ',' :: rest =>
      let (xs, rest) ← readElements? depth rest
      some (x :: xs, rest)
    | _ => none

/-- The members up to the closing brace, at least one, and the rest. -/
def readMembers? : Nat → List Char → Option (List (Option String × Json) × List Char)
  | 0, _ => none
  | depth + 1, cs =>
    match skipBlanks cs with
    | '\x22' :: rest => do
      let (name, rest) ← readText? depth (some []) rest
      match skipBlanks rest with
      | ':' :: rest =>
        let (x, rest) ← readValue? depth rest
        match skipBlanks rest with
        | '\x7d' :: rest => some ([(name, x)], rest)
        | ',' :: rest =>
          let (ms, rest) ← readMembers? depth rest
          some ((name, x) :: ms, rest)
        | _ => none
      | _ => none
    | _ => none

end

/-- The value that a text is the written form of. -/
def parse? (text : String) : Option Json :=
  let cs := text.toList
  match readValue? (2 * cs.length + 1) cs with
  | some (value, rest) => if (skipBlanks rest).isEmpty then some value else none
  | none => none

end SqlOperator.Json
