import SqlOperator.Text.Bytes

/-!
# Base64

Three bytes are four digits of six bits. The standard alphabet with padding is
how secret values travel, the URL-safe alphabet without padding is how random
bytes become a password. Decoding is strict: only what encoding writes is read.
-/

namespace SqlOperator.Text.Base64

/-- The two digits in which the alphabets differ. -/
structure Alphabet where
  plus : Char
  slash : Char
  deriving DecidableEq

/-- The alphabet of secret values. -/
def Alphabet.standard : Alphabet := ⟨'+', '/'⟩

/-- The alphabet of passwords. -/
def Alphabet.urlSafe : Alphabet := ⟨'-', '_'⟩

/-- The digit of a value below 64. -/
def digit (a : Alphabet) (n : Nat) : Char :=
  if n < 26 then Char.ofNat ('A'.toNat + n)
  else if n < 52 then Char.ofNat ('a'.toNat + (n - 26))
  else if n < 62 then Char.ofNat ('0'.toNat + (n - 52))
  else if n = 62 then a.plus
  else a.slash

/-- The value of a digit. -/
def value? (a : Alphabet) (c : Char) : Option Nat :=
  if c.isUpper then some (c.toNat - 'A'.toNat)
  else if c.isLower then some (c.toNat - 'a'.toNat + 26)
  else if c.isDigit then some (c.toNat - '0'.toNat + 52)
  else if c = a.plus then some 62
  else if c = a.slash then some 63
  else none

/-- Write groups of three bytes as four digits, a shorter last group as two or
three digits, with `=` in place of the missing ones if `padded`. -/
def encode (a : Alphabet) (padded : Bool) : Bytes → List Char
  | [] => []
  | [x] =>
    let n := x.toNat * 16
    [digit a (n / 64), digit a (n % 64)] ++ if padded then ['=', '='] else []
  | [x, y] =>
    let n := (x.toNat * 256 + y.toNat) * 4
    [digit a (n / 4096), digit a (n / 64 % 64), digit a (n % 64)] ++
      if padded then ['='] else []
  | x :: y :: z :: rest =>
    let n := (x.toNat * 256 + y.toNat) * 256 + z.toNat
    [digit a (n / 262144), digit a (n / 4096 % 64), digit a (n / 64 % 64), digit a (n % 64)] ++
      encode a padded rest

/-- The bytes of a last group of two or three digits, whose unused bits are zero. -/
def decodeLast? (a : Alphabet) : List Char → Option Bytes
  | [c, d] => do
    let n := (← value? a c) * 64 + (← value? a d)
    if n % 16 = 0 then some [UInt8.ofNat (n / 16)] else none
  | [c, d, e] => do
    let n := ((← value? a c) * 64 + (← value? a d)) * 64 + (← value? a e)
    if n % 4 = 0 then some [UInt8.ofNat (n / 1024), UInt8.ofNat (n / 4 % 256)] else none
  | _ => none

/-- Read groups of four digits, the last of them with padding. -/
def decode? (a : Alphabet) : List Char → Option Bytes
  | [] => some []
  | [c, d, '=', '='] => decodeLast? a [c, d]
  | [c, d, e, '='] => decodeLast? a [c, d, e]
  | c :: d :: e :: f :: rest => do
    let n := (((← value? a c) * 64 + (← value? a d)) * 64 + (← value? a e)) * 64 + (← value? a f)
    let more ← decode? a rest
    some (UInt8.ofNat (n / 65536) :: UInt8.ofNat (n / 256 % 256) :: UInt8.ofNat (n % 256) :: more)
  | _ => none

end SqlOperator.Text.Base64
