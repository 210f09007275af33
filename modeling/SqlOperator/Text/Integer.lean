/-!
# Decimal integers within bounds

An integer is a sign, which may be missing, and decimal digits. It is read from
left to right, so that the first digit at fault decides what is wrong.
-/

namespace SqlOperator.Text

/-- Why a text is not an integer within bounds. -/
inductive IntegerFault where
  | empty
  | invalidDigit
  | tooLarge
  | tooSmall
  deriving DecidableEq, Inhabited

/-- The fault in messages. -/
def IntegerFault.message : IntegerFault → String
  | .empty => "cannot parse integer from empty string"
  | .invalidDigit => "invalid digit found in string"
  | .tooLarge => "number too large to fit in target type"
  | .tooSmall => "number too small to fit in target type"

/-- Add a digit to an integer that is not negative. -/
def appendDigit (greatest : Nat) (n : Nat) (c : Char) : Except IntegerFault Nat :=
  if !c.isDigit then .error .invalidDigit
  else
    let next := n * 10 + (c.toNat - '0'.toNat)
    if next ≤ greatest then .ok next else .error .tooLarge

/-- The number that nonempty digits denote, at most `greatest`. -/
def boundedDigits (greatest : Nat) (digits : List Char) : Except IntegerFault Nat :=
  if digits.isEmpty then .error .invalidDigit
  else digits.foldlM (appendDigit greatest) 0

/-- An integer of 64 bits. -/
def parseInt64 (cs : List Char) : Except IntegerFault Int :=
  match cs with
  | [] => .error .empty
  | '-' :: digits =>
    match boundedDigits 0x8000000000000000 digits with
    | .ok n => .ok (-n)
    | .error .tooLarge => .error .tooSmall
    | .error e => .error e
  | '+' :: digits => (boundedDigits 0x7fffffffffffffff digits).map Int.ofNat
  | digits => (boundedDigits 0x7fffffffffffffff digits).map Int.ofNat

/-- A natural number of at most `greatest`. -/
def parseNat (greatest : Nat) (cs : List Char) : Except IntegerFault Nat :=
  match cs with
  | [] => .error .empty
  | '+' :: digits => boundedDigits greatest digits
  | digits => boundedDigits greatest digits

/-- A natural number of 16 bits. -/
def parseUInt16 (cs : List Char) : Except IntegerFault UInt16 :=
  (parseNat 65535 cs).map UInt16.ofNat

end SqlOperator.Text
