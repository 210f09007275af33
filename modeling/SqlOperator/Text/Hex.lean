import SqlOperator.Text.Bytes

/-!
# Hexadecimal digits
-/

namespace SqlOperator.Text.Hex

/-- The lower-case hexadecimal digit of `n`. -/
def lower (n : Nat) : Char := Nat.digitChar n

/-- The upper-case hexadecimal digit of `n`. -/
def upper (n : Nat) : Char := (Nat.digitChar n).toUpper

/-- The value of a hexadecimal digit of either case. -/
def value? (c : Char) : Option Nat :=
  if '0' ≤ c ∧ c ≤ '9' then some (c.toNat - '0'.toNat)
  else if 'a' ≤ c ∧ c ≤ 'f' then some (c.toNat - 'a'.toNat + 10)
  else if 'A' ≤ c ∧ c ≤ 'F' then some (c.toNat - 'A'.toNat + 10)
  else none

/-- The number that a list of hexadecimal digits denotes; zero for no digits. -/
def toNat? (digits : List Char) : Option Nat :=
  digits.foldlM (fun n c => (value? c).map (n * 16 + ·)) 0

/-- The hexadecimal digits of a number, without leading zeros, in lower case. -/
def ofNat (n : Nat) : List Char := Nat.toDigits 16 n

/-- Two lower-case digits for each byte. -/
def ofBytes (bytes : Bytes) : List Char :=
  bytes.flatMap fun b => [lower (b.toNat / 16), lower (b.toNat % 16)]

end SqlOperator.Text.Hex
