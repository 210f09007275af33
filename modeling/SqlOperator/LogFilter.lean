import SqlOperator.Text.Integer
import SqlOperator.Text.Pattern
import SqlOperator.Text.Split

/-!
# Log filters

A log filter is a list of directives, separated by commas. A directive is a bare
level, or it names where events come from, by a target, by a span in brackets or by
both, and may set a level for them after `=`. A span may be narrowed down by a field
in braces, whose value is a search pattern.

## Implementation notes

The parts of a directive are told apart by a walk through it without the blanks around
it. They are cut out at the places of that walk, but of the directive with its blanks,
so blanks in front move every part towards the front. A place that lies within a
character cannot be cut at.
-/

namespace SqlOperator.LogFilter

/-- Why a text is not a filter. -/
inductive Fault where
  | malformed
  /-- A part ends within a character. -/
  | torn
  deriving DecidableEq, Inhabited, Repr

/-- The names of the levels in lower case. -/
def levels : List String := ["off", "error", "warn", "info", "debug", "trace"]

/-- A level is named, or it is a number up to five. -/
def isLevel (cs : List Char) : Bool :=
  levels.contains (String.ofList (cs.map Char.toLower)) || (Text.parseNat 5 cs).isOk

/-- A number with a point or an exponent, or one of the names for what is no number. -/
def isDecimal (cs : List Char) : Bool :=
  let unsigned := match cs with
    | '+' :: rest | '-' :: rest => rest
    | rest => rest
  let name := String.ofList (unsigned.map Char.toLower)
  if name = "inf" ∨ name = "infinity" ∨ name = "nan" then true
  else
    let whole := unsigned.takeWhile Char.isDigit
    let (fraction, rest) := match unsigned.drop whole.length with
      | '.' :: rest => (rest.takeWhile Char.isDigit, rest.dropWhile Char.isDigit)
      | rest => ([], rest)
    let isEnd := match rest with
      | [] => true
      | e :: rest =>
        let digits := match rest with
          | '+' :: digits | '-' :: digits => digits
          | digits => digits
        (e = 'e' || e = 'E') && !digits.isEmpty && digits.all Char.isDigit
    (!whole.isEmpty || !fraction.isEmpty) && isEnd

/-- A field has a name, and maybe a value, which is a number or a search pattern. -/
def isField (cs : List Char) : Bool :=
  !cs.isEmpty &&
    match Text.fields '=' cs with
    | _ :: value :: _ => isDecimal value || Text.Pattern.isValid value
    | _ => true

/-- A character that a target starts with. -/
def startsTarget (c : Char) : Bool :=
  c = '-' || c = ':' || c = '_' || Text.isAlphanumeric c

/-- Whether bytes can be cut in front of what is left of them. -/
def isCharacterStart (rest : Bytes) : Bool :=
  match rest with
  | [] => true
  | b :: _ => b < 0x80 || 0xc0 ≤ b

/-- The part of a text between two places, which are counted in bytes. -/
def part (whole : Bytes) (first last : Nat) : Except Fault (List Char) :=
  if isCharacterStart (whole.drop first) && isCharacterStart (whole.drop last) then
    .ok ((Bytes.toText? ((whole.drop first).take (last - first))).getD "").toList
  else .error .torn

/-- The part of a directive in which a character stands, with the place where the part
starts. -/
inductive Place where
  | start
  /-- A target, or a bare level. -/
  | origin (first : Nat)
  | span (first : Nat)
  | field (first : Nat)
  | afterField
  | afterSpan
  | level (first : Nat)
  deriving DecidableEq, Inhabited, Repr

/-- Go on over a character at the place `i`. -/
def Place.step (whole : Bytes) (i : Nat) (c : Char) : Place → Except Fault Place
  | .start =>
    if c = '[' then .ok (.span (i + 1))
    else if startsTarget c then .ok (.origin i)
    else .error .malformed
  | .origin first =>
    if c = '=' then (part whole first i).map fun _ => .level (i + 1)
    else if c = '[' then (part whole first i).map fun _ => .span (i + 1)
    else .ok (.origin first)
  | .span first =>
    if c = ']' then (part whole first i).map fun _ => .afterSpan
    else if c = '\x7b' then (part whole first i).map fun _ => .field (i + 1)
    else .ok (.span first)
  | .field first =>
    if c = '\x7d' then do
      if isField (← part whole first i) then .ok .afterField else .error .malformed
    else .ok (.field first)
  | .afterField => if c = ']' then .ok .afterSpan else .error .malformed
  | .afterSpan => if c = '=' then .ok (.level (i + 1)) else .error .malformed
  | .level first => .ok (.level first)

/-- What is still to be asked where a directive ends. -/
def Place.finish (whole : Bytes) : Place → Except Fault Unit
  | .origin _ | .afterSpan => .ok ()
  | .level first => do
    let level ← part whole first whole.length
    if level.isEmpty || isLevel level then .ok () else .error .malformed
  | _ => .error .malformed

/-- Walk through the rest of a directive from the place `i` on. -/
def walk (whole : Bytes) : Nat → Place → List Char → Except Fault Unit
  | _, place, [] => place.finish whole
  | i, place, c :: rest => do walk whole (i + c.utf8Size) (← place.step whole i c) rest

/-- A text without the blanks around it. -/
def trim (cs : List Char) : List Char :=
  ((Text.skipBlanks cs).reverse.dropWhile Text.isBlank).reverse

/-- Check one directive, which is walked through without the blanks around it. -/
def checkDirective (cs : List Char) : Except Fault Unit :=
  walk (Bytes.ofText (String.ofList cs)) 0 .start (trim cs)

/-- Whether a text is a filter, or else the first fault in it. -/
def check (text : String) : Except Fault Unit :=
  ((Text.fields ',' text.toList).filter (!·.isEmpty)).forM checkDirective

end SqlOperator.LogFilter
