import SqlOperator.Text.Bytes

/-!
# Texts for a terminal

A text may hold control sequences, which a terminal obeys and does not show. Where
no terminal is attached, a text is written without them: what is left are the
characters that a terminal shows and the blanks that move on in a line or to the
next one.

## Implementation notes

A sequence starts with the escape character and goes on for as long as its form
asks, so a sequence that is not ended takes away what follows it. A new escape
character gives up a sequence and starts another one.
-/

namespace SqlOperator.Text.Terminal

/-- Where a reader of a text stands: in shown text, or within a control sequence. -/
inductive Mode where
  | shown
  /-- Just after the escape character. -/
  | escape
  /-- After the escape character and more that its sequence ends with one character. -/
  | escapeEnd
  /-- In the parameters of a control sequence. -/
  | parameters
  /-- In a command to the system around the terminal, which a bell ends. -/
  | command
  /-- In a text for the terminal itself. -/
  | message
  deriving DecidableEq, Inhabited, Repr

/-- The blanks that a control sequence does not take away. -/
def isLayout (c : Char) : Bool := c = '\t' || c = '\n' || c = '\x0c' || c = '\r'

/-- Whether a character is shown outside of control sequences. -/
def isShown (c : Char) : Bool := isLayout c || (0x20 ≤ c.toNat && c.toNat != 0x7f)

/-- The mode after an intermediate, parameter or last character of a sequence. -/
def Mode.next (mode : Mode) (c : Char) : Mode :=
  let n := c.toNat
  match mode with
  | .shown => .shown
  | .escape =>
    if 0x20 ≤ n ∧ n < 0x30 then .escapeEnd
    else if c = '[' then .parameters
    else if c = ']' then .command
    else if c = 'P' ∨ c = 'X' ∨ c = '^' ∨ c = '_' then .message
    else if 0x30 ≤ n ∧ n < 0x7f then .shown
    else .escape
  | .escapeEnd => if 0x30 ≤ n ∧ n < 0x7f then .shown else .escapeEnd
  | .parameters => if 0x40 ≤ n ∧ n < 0x7f then .shown else .parameters
  | .command => if c = '\x07' then .shown else .command
  | .message => if (Bytes.ofText c.toString).contains 0x9c then .shown else .message

/-- The mode after a character, and whether the character is shown. -/
def Mode.step (mode : Mode) (c : Char) : Mode × Bool :=
  if c = '\x1b' then (.escape, false)
  else if c = '\x18' ∨ c = '\x1a' then (.shown, false)
  else
    match mode with
    | .shown => (.shown, isShown c)
    | .command | .message => (mode.next c, false)
    | _ => if isLayout c then (.shown, true) else (mode.next c, false)

/-- The characters that are shown of a text that is met in some mode. -/
def shownFrom : Mode → List Char → List Char
  | _, [] => []
  | mode, c :: rest =>
    match mode.step c with
    | (mode, true) => c :: shownFrom mode rest
    | (mode, false) => shownFrom mode rest

/-- A text without control sequences. -/
def plain (text : String) : String := String.ofList (shownFrom .shown text.toList)

/-- A reason for which a text stands out on a terminal. -/
inductive Style where
  | heading
  /-- Something to be written as it is. -/
  | name
  | alarm
  /-- Something that should not have been written. -/
  | fault
  deriving DecidableEq, Inhabited, Repr

/-- The control sequences of a style: bold, and underlined or red, or yellow alone. -/
def Style.start : Style → String
  | .heading => "\x1b[1m\x1b[4m"
  | .name => "\x1b[1m"
  | .alarm => "\x1b[1m\x1b[31m"
  | .fault => "\x1b[33m"

/-- A text that a terminal shows in a style. -/
def styled (style : Style) (text : String) : String := style.start ++ text ++ "\x1b[0m"

end SqlOperator.Text.Terminal
