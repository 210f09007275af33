/-!
# Numbers of double precision

A finite number is a sign and a significand of 53 bits in units of a power of
two. The units are as small as the significand allows, and never smaller than
`2 ^ (-1074)`. The result of an operation is the exact one rounded to the nearest
such number, and of two to the one with the even significand.
-/

namespace SqlOperator

/-- The integer nearest to a quotient, and of two the even one. -/
def roundDiv (num den : Nat) : Nat :=
  if 2 * (num % den) < den then num / den
  else if 2 * (num % den) = den then num / den + num / den % 2
  else num / den + 1

/-- A number that is not negative: `significand` units of `2 ^ unit`. -/
structure Magnitude where
  significand : Nat
  unit : Int
  significand_lt : significand < 0x20000000000000
  le_unit : -1074 ≤ unit
  unit_le : unit ≤ 971
  deriving DecidableEq

namespace Magnitude

def zero : Magnitude := ⟨0, -1074, by decide, by decide, by decide⟩

instance : Inhabited Magnitude := ⟨zero⟩

/-- The quotient in units of `2 ^ unit`. -/
def inUnits (num den : Nat) (unit : Int) : Nat × Nat :=
  (num <<< (-unit).toNat, den <<< unit.toNat)

/-- The exponent of the unit in which a quotient has 53 bits before its point, as
far as units go down. The lengths of the two numbers tell it up to one. -/
def unitFor (num den : Nat) : Int :=
  let unit := (num.log2 : Int) - den.log2 - 52
  let (n, d) := inUnits num den unit
  max (-1074) (if n / d < 0x10000000000000 then unit - 1 else unit)

/-- So many units, of which as many as do not fit in a significand are two of the
next greater power, unless they are beyond the greatest one. -/
def ofUnits? (count : Nat) (unit : Int) : Option Magnitude :=
  if hs : count < 0x20000000000000 then
    if hu : -1074 ≤ unit ∧ unit ≤ 971 then some ⟨count, unit, hs, hu.1, hu.2⟩ else none
  else if hu : -1074 ≤ unit + 1 ∧ unit + 1 ≤ 971 then
    some ⟨0x10000000000000, unit + 1, by decide, hu.1, hu.2⟩
  else none

/-- The number nearest to a quotient, unless the quotient is too great. -/
def nearest? (num den : Nat) : Option Magnitude :=
  if num = 0 then some zero
  else
    let unit := unitFor num den
    let (n, d) := inUnits num den unit
    ofUnits? (roundDiv n d) unit

/-- The product, unless it is too great. -/
def mul? (x y : Magnitude) : Option Magnitude :=
  let unit := x.unit + y.unit
  nearest? ((x.significand * y.significand) <<< unit.toNat) (1 <<< (-unit).toNat)

/-- The quotient by a number that is not zero. -/
def div? (x y : Magnitude) : Option Magnitude :=
  if y.significand = 0 then none
  else
    let unit := x.unit - y.unit
    nearest? (x.significand <<< unit.toNat) (y.significand <<< (-unit).toNat)

/-- The number nearest to a power of ten. -/
def powerOfTen? (k : Nat) : Option Magnitude := nearest? (Nat.pow 10 k) 1

/-- The exponent of the greatest power of ten that is in range. -/
def greatestPower : Nat := 308

/-- A number divided so many times by the greatest power of ten, as long as it is
not zero, and then by another power of ten. -/
def lower? (last : Nat) : Nat → Magnitude → Option Magnitude
  | 0, x => (powerOfTen? last).bind x.div?
  | steps + 1, x =>
    if x.significand = 0 then some x
    else ((powerOfTen? greatestPower).bind x.div?).bind (lower? last steps)

/-- A number times a power of ten, unless it is too great. Each multiplication and
each division by a power of ten rounds. -/
def scale? (x : Magnitude) : Int → Option Magnitude
  | .ofNat e =>
    if e ≤ greatestPower then (powerOfTen? e).bind x.mul?
    else if x.significand = 0 then some x
    else none
  | .negSucc e => lower? (e % greatestPower + 1) (e / greatestPower) x

end Magnitude

/-- A finite number of double precision; zero has a sign as well. -/
structure Double where
  negative : Bool
  magnitude : Magnitude
  deriving DecidableEq, Inhabited

namespace Double

/-- `significand · 10 ^ exponent`, unless it is too great. The significand is
rounded before it is scaled. -/
def ofDecimal? (negative : Bool) (significand : Nat) (exponent : Int) : Option Double :=
  ((Magnitude.nearest? significand 1).bind (·.scale? exponent)).map (⟨negative, ·⟩)

end Double

end SqlOperator
