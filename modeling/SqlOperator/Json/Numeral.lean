import SqlOperator.Json.Value

/-!
# Numerals

A numeral is digits with a sign, a fraction and an exponent, which may be missing.
Without fraction and exponent it is an integer if it fits into 64 bits. Any other
numeral is a number of double precision: as many of its digits as fit into 64
bits are the significand, and the digits after them only count for the exponent.
-/

namespace SqlOperator.Json

/-- The parts of a numeral as they are written. -/
structure Numeral where
  negative : Bool
  digits : List Char
  /-- The digits after the point. -/
  fraction : Option (List Char) := none
  exponent : Option Int := none
  deriving DecidableEq, Inhabited

namespace Numeral

/-- The longest run of digits, at least one, and the rest. -/
def readDigits? (cs : List Char) : Option (List Char × List Char) :=
  let digits := cs.takeWhile Char.isDigit
  if digits.isEmpty then none else some (digits, cs.dropWhile Char.isDigit)

/-- The value of a decimal digit. -/
def digit (c : Char) : Nat := c.toNat - '0'.toNat

/-- The number that digits stand for. -/
def ofDigits (digits : List Char) : Nat := digits.foldl (fun n c => n * 10 + digit c) 0

/-- The digits after a point, if there is one, and the rest. -/
def readFraction? : List Char → Option (Option (List Char) × List Char)
  | '.' :: rest => (readDigits? rest).map fun (digits, rest) => (some digits, rest)
  | cs => some (none, cs)

/-- The number after the letter of an exponent, if there is one, and the rest. -/
def readExponent? : List Char → Option (Option Int × List Char)
  | [] => some (none, [])
  | c :: rest =>
    if c = 'e' ∨ c = 'E' then
      let (negative, rest) := match rest with
        | '+' :: more => (false, more)
        | '-' :: more => (true, more)
        | _ => (false, rest)
      (readDigits? rest).map fun (digits, rest) =>
        (some (if negative then -ofDigits digits else ofDigits digits), rest)
    else some (none, c :: rest)

/-- A numeral and the rest. No zero stands before other digits. -/
def read? (cs : List Char) : Option (Numeral × List Char) := do
  let (negative, unsigned) := match cs with
    | '-' :: rest => (true, rest)
    | _ => (false, cs)
  let (digits, rest) ← readDigits? unsigned
  if digits.head? = some '0' ∧ digits.length ≠ 1 then none
  else
    let (fraction, rest) ← readFraction? rest
    let (exponent, rest) ← readExponent? rest
    some ({ negative, digits, fraction, exponent }, rest)

/-- The greatest number of 64 bits. -/
def greatest : Nat := 0xffffffffffffffff

/-- The digits appended to a number as long as it fits into 64 bits, and the
digits that are left then. -/
def append (n : Nat) : List Char → Nat × List Char
  | [] => (n, [])
  | c :: rest =>
    if n * 10 + digit c ≤ greatest then append (n * 10 + digit c) rest else (n, c :: rest)

/-- The integer of a numeral that has neither fraction nor exponent. Zero with a
sign is none. -/
def integer? (n : Numeral) : Option Int :=
  let magnitude := ofDigits n.digits
  if n.fraction.isSome || n.exponent.isSome then none
  else if n.negative then
    if 0 < magnitude ∧ magnitude ≤ 0x8000000000000000 then some (-magnitude) else none
  else if magnitude ≤ greatest then some magnitude
  else none

/-- The number of double precision, unless it is out of range. A digit of the
fraction can still fit when one before the point did not. -/
def double? (n : Numeral) : Option Double :=
  let (whole, dropped) := append 0 n.digits
  let fraction := n.fraction.getD []
  let (significand, ignored) := append whole fraction
  let exponent := (dropped.length : Int) - (fraction.length - ignored.length : Nat)
  Double.ofDecimal? n.negative significand (exponent + n.exponent.getD 0)

/-- The value of a numeral. -/
def value (n : Numeral) : Json :=
  match n.integer? with
  | some k => .int k
  | none => (n.double?.map Json.float).getD .invalid

end Numeral

end SqlOperator.Json
