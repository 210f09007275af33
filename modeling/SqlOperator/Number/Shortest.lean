import SqlOperator.Number.Double

/-!
# The shortest text of a number

A number is written with the fewest digits that are nearer to it than to any
other number, and of the texts with that many digits with the nearest one. The
digits are found on the grids of decimal numbers, from the coarsest one down: if
a grid has a point that reads as the number, one of the two next to the number
does.
-/

namespace SqlOperator

/-- The digits of a positive number and the place of its point, counted from the first. -/
structure Decimal where
  digits : List Char
  point : Int
  deriving DecidableEq, Inhabited

namespace Magnitude

/-- One unit of a number on the grid of the multiples of `10 ^ grid`, as a quotient. -/
def unitOnGrid (x : Magnitude) (grid : Int) : Nat × Nat :=
  (Nat.pow 10 (-grid).toNat <<< x.unit.toNat, Nat.pow 10 grid.toNat <<< (-x.unit).toNat)

/-- Whether the next smaller number is only half a unit away. -/
def isNarrowBelow (x : Magnitude) : Bool := x.significand = 0x10000000000000 && -1074 < x.unit

/-- Whether `count` points of a grid up from zero is a place that rounds to the
number: at most half the way to its neighbours, with the very half only for an
even significand. -/
def readsAs (x : Magnitude) (grid : Int) (count : Nat) : Bool :=
  let (num, den) := x.unitOnGrid grid
  let least := (4 * x.significand - if x.isNarrowBelow then 1 else 2) * num
  let greatest := (4 * x.significand + 2) * num
  let place := 4 * count * den
  if x.significand % 2 = 0 then least ≤ place && place ≤ greatest
  else least < place && place < greatest

/-- The point of a grid that the number is written as, if one reads as the number. -/
def onGrid? (x : Magnitude) (grid : Int) : Option Nat :=
  let (num, den) := x.unitOnGrid grid
  let below := x.significand * num / den
  match x.readsAs grid below, x.readsAs grid (below + 1) with
  | true, true => some (roundDiv (x.significand * num) den)
  | true, false => some below
  | false, true => some (below + 1)
  | false, false => none

/-- The exponent of the coarsest grid that can have a point near the number. -/
def coarsestGrid (x : Magnitude) : Int :=
  let (num, den) := x.unitOnGrid 0
  let num := x.significand * num
  if den ≤ num then (Nat.toDigits 10 (num / den)).length - 1
  else 1 - (Nat.toDigits 10 (den / num)).length

/-- The digits of a number that is not zero; seventeen of them are always enough. -/
def shortest (x : Magnitude) : Decimal :=
  let point? := (List.range 18).findSome? fun (k : Nat) =>
    let grid := x.coarsestGrid - k
    (x.onGrid? grid).map fun count =>
      let digits := Nat.toDigits 10 count
      Decimal.mk ((digits.reverse.dropWhile (· = '0')).reverse) (grid + digits.length)
  point?.getD default

end Magnitude

namespace Decimal

/-- So many zeros, and none for a negative number. -/
def zeros (n : Int) : List Char := List.replicate n.toNat '0'

/-- In place where the point is not far from the digits, and else with an exponent.
Either form shows that the number is not written as an integer. -/
def render (d : Decimal) : List Char :=
  let length : Int := d.digits.length
  if length ≤ d.point ∧ d.point ≤ 16 then
    d.digits ++ zeros (d.point - length) ++ ['.', '0']
  else if 0 < d.point ∧ d.point ≤ 16 then
    d.digits.take d.point.toNat ++ '.' :: d.digits.drop d.point.toNat
  else if -5 < d.point ∧ d.point ≤ 0 then
    ['0', '.'] ++ zeros (-d.point) ++ d.digits
  else
    let fraction := if d.digits.length ≤ 1 then [] else '.' :: d.digits.drop 1
    d.digits.take 1 ++ fraction ++ 'e' :: (toString (d.point - 1)).toList

end Decimal

/-- The text of a number. -/
def Double.render (x : Double) : List Char :=
  (if x.negative then ['-'] else []) ++
    (if x.magnitude.significand = 0 then ['0', '.', '0'] else x.magnitude.shortest.render)

end SqlOperator
