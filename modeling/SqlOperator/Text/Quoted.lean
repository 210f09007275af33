import SqlOperator.Text.Hex
import SqlOperator.Text.Invisible

/-!
# Quoted texts in messages

Error messages quote texts so that every character can be told: quotes and
backslashes are escaped, the common control characters have a short escape, and
characters without a shape of their own are written as their code point.
-/

namespace SqlOperator.Text.Quoted

/-- A code point in braces. -/
def codePoint (c : Char) : List Char :=
  ['\\', 'u', '\x7b'] ++ Hex.ofNat c.toNat ++ ['\x7d']

/-- The written form of a character between quotes. -/
def escape (c : Char) : List Char :=
  match c with
  | '\x00' => ['\\', '0']
  | '\t' => ['\\', 't']
  | '\r' => ['\\', 'r']
  | '\n' => ['\\', 'n']
  | '\x22' => ['\\', '\x22']
  | '\\' => ['\\', '\\']
  | _ =>
    if c.toNat < 0x20 || (0x7f ≤ c.toNat && Invisible.contains c.toNat) then codePoint c
    else [c]

/-- The text in quotes. -/
def quote (text : String) : String :=
  String.ofList ('\x22' :: (text.toList.flatMap escape ++ ['\x22']))

end SqlOperator.Text.Quoted
