import SqlOperator.Text.Alphanumeric
import SqlOperator.Text.Blank
import SqlOperator.Text.Hex

/-!
# Search patterns

`Pattern.isValid` says whether a text is a regular expression that can be searched
for in UTF-8 text by an automaton that looks at every byte once. Such an automaton
knows the boundaries of words only where words are those of ASCII.

Patterns stand in fields that a closing brace ends, so a count or a name in braces is
never complete, and an opening brace is refused wherever it would start one.

## Implementation notes

What a set of characters holds matters only beyond ASCII and only where characters
are bytes. There a set holds all bytes beyond ASCII or none of them, so one truth
value is kept for it. Every step consumes input, so twice the length of a pattern
bounds the depth of its reading.
-/

namespace SqlOperator.Text.Pattern

/-- How a pattern is read from a place on. -/
structure Mode where
  /-- Blanks and comments do not count. -/
  spaced : Bool := false
  /-- Characters are those of Unicode and not bytes. -/
  wide : Bool := true
  deriving DecidableEq, Inhabited

/-- Leave out blanks and comments, which reach to the end of their line. -/
def dropSpaced : Bool → List Char → List Char
  | _, [] => []
  | true, c :: rest => dropSpaced (c != '\n') rest
  | false, c :: rest =>
    if isBlank c then dropSpaced false rest
    else if c = '#' then dropSpaced true rest
    else c :: rest

/-- Leave out blanks and comments if they do not count. -/
def Mode.skip (m : Mode) (cs : List Char) : List Char :=
  if m.spaced then dropSpaced false cs else cs

/-- What a single character or an escape stands for. -/
inductive Piece where
  /-- One character, or the byte of that value. -/
  | literal (value : Nat) (isByte : Bool)
  /-- A class of characters, or the class of all others. -/
  | shorthand (negated : Bool)
  /-- The characters of a Unicode category. -/
  | category
  /-- A place in the text; that of a word depends on what its characters are. -/
  | place (ofWord : Bool)
  deriving DecidableEq, Inhabited

/-- Hexadecimal digits, as many as asked for, and the rest. -/
def readHex? (m : Mode) : Nat → Nat → List Char → Option (Nat × List Char)
  | 0, n, cs => some (n, cs)
  | count + 1, n, cs =>
    match m.skip cs with
    | [] => none
    | c :: rest => do readHex? m count (n * 16 + (← Hex.value? c)) rest

/-- A character given by its number in hexadecimal digits. -/
def readNumbered? (m : Mode) (digits : Nat) (cs : List Char) : Option (Piece × List Char) := do
  let (n, rest) ← readHex? m digits 0 cs
  if n < 0xd800 ∨ (0xe000 ≤ n ∧ n < 0x110000) then
    some (.literal n (digits = 2), m.skip rest)
  else none

/-- The one-letter names of the categories of characters. -/
def categories : List Char := "CLMNPSZclmnpsz".toList

/-- The control characters that have an escape. -/
def controls : List (Char × Nat) :=
  [('a', 0x07), ('f', 0x0c), ('t', 0x09), ('n', 0x0a), ('r', 0x0d), ('v', 0x0b)]

/-- What follows a backslash. -/
def readEscape? (m : Mode) : List Char → Option (Piece × List Char)
  | [] => none
  | c :: rest =>
    if c = 'x' then readNumbered? m 2 rest
    else if c = 'u' then readNumbered? m 4 rest
    else if c = 'U' then readNumbered? m 8 rest
    else if c = 'p' ∨ c = 'P' then
      match m.skip rest with
      | [] => none
      | c :: rest => if categories.contains c then some (.category, m.skip rest) else none
    else if c = 'd' ∨ c = 's' ∨ c = 'w' then some (.shorthand false, rest)
    else if c = 'D' ∨ c = 'S' ∨ c = 'W' then some (.shorthand true, rest)
    else if c = 'A' ∨ c = 'z' then some (.place false, rest)
    else if c = 'b' ∨ c = 'B' ∨ c = '<' ∨ c = '>' then some (.place true, rest)
    else
      match controls.lookup c with
      | some n => some (.literal n false, rest)
      | none =>
        if c.toNat < 0x80 ∧ !c.isAlphanum then some (.literal c.toNat false, rest) else none

/-! ### Sets of characters -/

/-- What of two sets is in the result: what both have, what only the left one has, or
what only one of them has. -/
inductive SetOperator where
  | both
  | difference
  | either
  deriving DecidableEq, Inhabited

/-- Whether the result holds bytes beyond ASCII, given whether its sides do. -/
def SetOperator.apply : SetOperator → Bool → Bool → Bool
  | .both, a, b => a && b
  | .difference, a, b => a && !b
  | .either, a, b => a != b

/-- What has been read of a set: an operator with its left side, and what came after. -/
structure SetProgress where
  left : Option (Bool × SetOperator) := none
  union : Bool := false
  deriving DecidableEq, Inhabited

/-- Whether what has been read holds bytes beyond ASCII. -/
def SetProgress.value (p : SetProgress) : Bool :=
  match p.left with
  | none => p.union
  | some (left, operator) => operator.apply left p.union

/-- Add a member, given whether it holds bytes beyond ASCII. -/
def SetProgress.add (p : SetProgress) (high : Bool) : SetProgress :=
  { p with union := p.union || high }

/-- Take all that has been read for the left side of an operator. -/
def SetProgress.operate (p : SetProgress) (operator : SetOperator) : SetProgress :=
  { left := some (p.value, operator) }

/-- The classes of ASCII characters that have a name. -/
def namedClasses : List String :=
  ["alnum", "alpha", "ascii", "blank", "cntrl", "digit", "graph", "lower", "print", "punct",
    "space", "upper", "word", "xdigit"]

/-- A named class after its opening bracket: whether it is negated, and the rest. -/
def readNamedClass? : List Char → Option (Bool × List Char)
  | ':' :: rest =>
    let (negated, rest) := match rest with
      | '^' :: rest => (true, rest)
      | _ => (false, rest)
    let name := rest.takeWhile (· != ':')
    match rest.drop name.length with
    | ':' :: ']' :: rest =>
      if namedClasses.contains (String.ofList name) then some (negated, rest) else none
    | _ => none
  | _ => none

/-- A member of a set, or an end of a range. -/
def readMember? (m : Mode) : List Char → Option (Piece × List Char)
  | [] => none
  | '\\' :: rest => readEscape? m rest
  | c :: rest => some (.literal c.toNat false, rest)

/-- A character in a set has to be ASCII where characters are bytes. -/
def isSetLiteral (m : Mode) (n : Nat) : Bool := m.wide || n < 0x80

/-- Whether a piece in a set holds bytes beyond ASCII; absent if it cannot stand there. -/
def Piece.inSet? (m : Mode) : Piece → Option Bool
  | .literal n _ => if isSetLiteral m n then some false else none
  | .shorthand negated => if m.wide || !negated then some false else none
  | .category => if m.wide then some false else none
  | .place _ => none

/-- A member of a set or a range of characters, and the rest. -/
def readRange? (m : Mode) (cs : List Char) : Option (Bool × List Char) := do
  let (first, rest) ← readMember? m cs
  let rest := m.skip rest
  let isRange := match rest with
    | '-' :: more =>
      match m.skip more with
      | ']' :: _ | '-' :: _ => false
      | _ => true
    | _ => false
  if isRange then
    let (last, rest) ← readMember? m (m.skip (rest.drop 1))
    match first, last with
    | .literal a _, .literal b _ =>
      if a ≤ b ∧ isSetLiteral m a ∧ isSetLiteral m b then some (false, rest) else none
    | _, _ => none
  else some (← first.inSet? m, rest)

/-- Dashes that open a set stand for themselves. -/
def skipDashes (m : Mode) : Nat → List Char → List Char
  | 0, cs => cs
  | depth + 1, cs =>
    match cs with
    | '-' :: rest => skipDashes m depth (m.skip rest)
    | cs => cs

mutual

/-- A set after its opening bracket: whether it holds bytes beyond ASCII, and the rest. -/
def readSet? (m : Mode) : Nat → List Char → Option (Bool × List Char)
  | 0, _ => none
  | depth + 1, cs => do
    let cs := m.skip cs
    let (negated, opened) := match cs with
      | '^' :: rest => (true, m.skip rest)
      | cs => (false, cs)
    let members := match opened with
      | ']' :: rest => rest
      | cs => skipDashes m cs.length cs
    let (high, rest) ← readMembers? m depth {} members
    let high := high != negated
    if m.wide || !high then some (high, rest) else none

/-- The members of a set up to its closing bracket, and the rest. -/
def readMembers? (m : Mode) : Nat → SetProgress → List Char → Option (Bool × List Char)
  | 0, _, _ => none
  | depth + 1, p, cs =>
    match m.skip cs with
    | [] => none
    | ']' :: rest => some (p.value, rest)
    | '[' :: rest =>
      match readNamedClass? rest with
      | some (negated, rest) => readMembers? m depth (p.add negated) rest
      | none => do
        let (high, rest) ← readSet? m depth rest
        readMembers? m depth (p.add high) rest
    | '&' :: '&' :: rest => readMembers? m depth (p.operate .both) rest
    | '-' :: '-' :: rest => readMembers? m depth (p.operate .difference) rest
    | '~' :: '~' :: rest => readMembers? m depth (p.operate .either) rest
    | cs => do
      let (high, rest) ← readRange? m cs
      readMembers? m depth (p.add high) rest

end

/-! ### Groups -/

/-- The letters that switch something on or off. -/
def switches : List Char := ['i', 'm', 's', 'U', 'u', 'R', 'x']

/-- Turn a switch; only two of them change how a pattern is read. -/
def Mode.switch (m : Mode) (letter : Char) (on : Bool) : Mode :=
  if letter = 'x' then { m with spaced := on }
  else if letter = 'u' then { m with wide := on }
  else m

/-- Switches up to the colon or parenthesis that ends them: the mode that they lead
to, whether there are any, and the rest from that mark on. `seen` are the letters so
far, latest first, with a dash in front of those that are switched off. -/
def readSwitches? (m : Mode) (seen : List Char) : List Char → Option (Mode × Bool × List Char)
  | [] => none
  | c :: rest =>
    if c = ':' ∨ c = ')' then
      if seen.head? = some '-' then none else some (m, !seen.isEmpty, c :: rest)
    else if seen.contains c then none
    else if c = '-' then readSwitches? m ('-' :: seen) rest
    else if switches.contains c then
      readSwitches? (m.switch c (!seen.contains '-')) (c :: seen) rest
    else none

/-- A character of the name of a group. -/
def isNameCharacter (first : Bool) (c : Char) : Bool :=
  c = '_' || if first then isLetter c else isAlphanumeric c || c = '.' || c = '[' || c = ']'

/-- The name of a group up to its closing angle bracket, and the rest. -/
def readName? (cs : List Char) : Option (List Char × List Char) :=
  let name := cs.takeWhile (· != '>')
  match name, cs.drop name.length with
  | first :: more, '>' :: rest =>
    if isNameCharacter true first && more.all (isNameCharacter false) then some (name, rest)
    else none
  | _, _ => none

/-- What an opening parenthesis starts. -/
inductive Opening where
  /-- A group, which is read in a mode and may have a name. -/
  | group (mode : Mode) (name : List Char)
  /-- Switches for what follows in the group around them. -/
  | switches (mode : Mode)
  deriving DecidableEq

/-- What stands after an opening parenthesis, and the rest. A pattern does not look
around. -/
def readOpening? (m : Mode) (cs : List Char) : Option (Opening × List Char) :=
  match m.skip cs with
  | '?' :: '=' :: _ | '?' :: '!' :: _ | '?' :: '<' :: '=' :: _ | '?' :: '<' :: '!' :: _ => none
  | '?' :: 'P' :: '<' :: rest | '?' :: '<' :: rest =>
    (readName? rest).map fun (name, rest) => (.group m name, rest)
  | '?' :: rest =>
    match readSwitches? m [] rest with
    | some (mode, _, ':' :: rest) => some (.group mode [], rest)
    | some (mode, true, _ :: rest) => some (.switches mode, rest)
    | _ => none
  | rest => some (.group m [], rest)

/-- Whether a piece may stand outside of sets. -/
def Piece.isValid (m : Mode) : Piece → Bool
  | .literal n isByte => m.wide || !isByte || n < 0x80
  | .shorthand negated => m.wide || !negated
  | .category => m.wide
  | .place ofWord => !(m.wide && ofWord)

/-- How far a pattern has been read. -/
structure Progress where
  mode : Mode := {}
  /-- The modes around the open groups, innermost first. -/
  around : List Mode := []
  /-- The names of groups so far. -/
  names : List (List Char) := []
  /-- There is something in front that can be repeated. -/
  repeatable : Bool := false
  deriving Inhabited

/-- Open a group or turn switches. Names of groups differ. -/
def Progress.enter? (p : Progress) : Opening → Option Progress
  | .switches mode => some { p with mode, repeatable := false }
  | .group mode name =>
    if name.isEmpty || !p.names.contains name then
      some {
        mode
        around := p.mode :: p.around
        names := if name.isEmpty then p.names else name :: p.names
        repeatable := false }
    else none

/-- One item of a pattern, whose first character is given, and the rest. -/
def readItem? (p : Progress) (c : Char) (rest : List Char) : Option (Progress × List Char) :=
  let item : Progress := { p with repeatable := true }
  if c = '(' then do
    let (opening, rest) ← readOpening? p.mode rest
    return (← p.enter? opening, rest)
  else if c = ')' then
    match p.around with
    | [] => none
    | mode :: around => some ({ item with mode, around }, rest)
  else if c = '|' then some ({ p with repeatable := false }, rest)
  else if c = '[' then
    (readSet? p.mode (2 * rest.length + 2) rest).map fun (_, rest) => (item, rest)
  else if c = '?' ∨ c = '*' ∨ c = '+' then
    if p.repeatable then
      match rest with
      | '?' :: rest => some (item, rest)
      | rest => some (item, rest)
    else none
  else if c = '\x7b' then none
  else if c = '.' then if p.mode.wide then some (item, rest) else none
  else if c = '\\' then do
    let (piece, rest) ← readEscape? p.mode rest
    if piece.isValid p.mode then some (item, rest) else none
  else some (item, rest)

/-- Whether the rest of a pattern is valid. -/
def isValidFrom : Nat → Progress → List Char → Bool
  | 0, _, _ => false
  | depth + 1, p, cs =>
    match p.mode.skip cs with
    | [] => p.around.isEmpty
    | c :: rest =>
      match readItem? p c rest with
      | some (p, rest) => isValidFrom depth p rest
      | none => false

/-- Whether a text is a pattern. -/
def isValid (cs : List Char) : Bool := isValidFrom (cs.length + 1) {} cs

end SqlOperator.Text.Pattern
