import SqlOperator.Text.Blank

/-!
# Points in time

Object metadata carries points in time to the second, written in UTC as
`YYYY-MM-DDThh:mm:ssZ`. They are read leniently: any offset from UTC, fewer
digits, blanks between the parts, and fractions of a second, which are dropped.
The year has to be one of the calendar, as it is written and in UTC.
-/

namespace SqlOperator

/-- A second of UTC. -/
structure Timestamp where
  /-- Seconds since the start of 1970, leap seconds not counted. -/
  seconds : Int
  /-- Whether it is the leap second that follows that second. -/
  leap : Bool := false
  deriving DecidableEq, Inhabited

namespace Timestamp

/-- A day of the Gregorian calendar. -/
structure Date where
  year : Int
  month : Nat
  day : Nat
  deriving DecidableEq

/-- Every fourth year, but of the full centuries only every fourth. -/
def isLeapYear (year : Int) : Bool :=
  year % 4 = 0 && (year % 100 != 0 || year % 400 = 0)

/-- The number of days of a month. -/
def daysInMonth (year : Int) (month : Nat) : Nat :=
  if month = 2 then if isLeapYear year then 29 else 28
  else if month = 4 || month = 6 || month = 9 || month = 11 then 30
  else 31

/-- The number of days from the start of 1970 to a day. Years are counted from
March, so that the leap day is the last of its year. -/
def Date.toDays (d : Date) : Int :=
  let year := if d.month ≤ 2 then d.year - 1 else d.year
  let era := year / 400
  let yearOfEra := year - era * 400
  let month : Int := (d.month + 9) % 12
  let dayOfYear := (153 * month + 2) / 5 + d.day - 1
  let dayOfEra := yearOfEra * 365 + yearOfEra / 4 - yearOfEra / 100 + dayOfYear
  era * 146097 + dayOfEra - 719468

/-- The day that lies that many days after the start of 1970. -/
def Date.ofDays (days : Int) : Date :=
  let z := days + 719468
  let era := z / 146097
  let dayOfEra := z - era * 146097
  let yearOfEra :=
    (dayOfEra - dayOfEra / 1460 + dayOfEra / 36524 - dayOfEra / 146096) / 365
  let dayOfYear := dayOfEra - (365 * yearOfEra + yearOfEra / 4 - yearOfEra / 100)
  let month := (5 * dayOfYear + 2) / 153
  let day := dayOfYear - (153 * month + 2) / 5 + 1
  let january := if month < 10 then month + 3 else month - 9
  ⟨yearOfEra + era * 400 + (if january ≤ 2 then 1 else 0), january.toNat, day.toNat⟩

/-- Decimal digits, with zeros in front up to `width`. -/
def padded (width n : Nat) : List Char :=
  let digits := Nat.toDigits 10 n
  List.replicate (width - digits.length) '0' ++ digits

/-- Four digits, with a sign for years that do not fit. -/
def renderYear (year : Int) : List Char :=
  if 0 ≤ year ∧ year ≤ 9999 then padded 4 year.toNat
  else (if year < 0 then '-' else '+') :: padded 4 year.natAbs

/-- The written form in UTC. -/
def render (t : Timestamp) : String :=
  let date := Date.ofDays (t.seconds / 86400)
  let time := (t.seconds % 86400).toNat
  String.ofList <|
    renderYear date.year ++ '-' :: padded 2 date.month ++ '-' :: padded 2 date.day ++
      'T' :: padded 2 (time / 3600) ++ ':' :: padded 2 (time / 60 % 60) ++
      ':' :: padded 2 (time % 60 + if t.leap then 1 else 0) ++ ['Z']

/-- A number of at least one and at most `width` digits, and the rest. -/
def readDigits? (width : Nat) (cs : List Char) : Option (Nat × List Char) :=
  let digits := (cs.take width).takeWhile Char.isDigit
  if digits.isEmpty then none
  else some (digits.foldl (fun n c => n * 10 + (c.toNat - '0'.toNat)) 0, cs.drop digits.length)

/-- A number of at most two digits within bounds, after blanks. -/
def readPart? (least greatest : Nat) (cs : List Char) : Option (Nat × List Char) := do
  let (n, rest) ← readDigits? 2 (Text.skipBlanks cs)
  if least ≤ n ∧ n ≤ greatest then some (n, rest) else none

/-- The years of the calendar. -/
def isYear (year : Int) : Bool := -262143 ≤ year && year ≤ 262142

/-- A year: up to four digits, or a sign and any number of digits. -/
def readYear? (cs : List Char) : Option (Int × List Char) := do
  let cs := Text.skipBlanks cs
  let (year, rest) ← match cs with
    | '-' :: rest => (readDigits? rest.length rest).map fun (n, rest) => (-(n : Int), rest)
    | '+' :: rest => (readDigits? rest.length rest).map fun (n, rest) => ((n : Int), rest)
    | _ => (readDigits? 4 cs).map fun (n, rest) => ((n : Int), rest)
  if isYear year then some (year, rest) else none

/-- The rest after blanks and the given character. -/
def readMark? (mark : Char) (cs : List Char) : Option (List Char) :=
  match Text.skipBlanks cs with
  | c :: rest => if c = mark then some rest else none
  | [] => none

/-- The rest after a fraction of a second, which may be missing. -/
def skipFraction? : List Char → Option (List Char)
  | '.' :: rest =>
    let digits := rest.takeWhile Char.isDigit
    if digits.isEmpty then none else some (rest.drop digits.length)
  | cs => some cs

/-- An offset from UTC in seconds, of hours and minutes, and the rest. -/
def readOffset? (cs : List Char) : Option (Int × List Char) :=
  match cs with
  | 'Z' :: rest | 'z' :: rest => some (0, rest)
  | sign :: h₁ :: h₂ :: rest => do
    let negative ←
      if sign = '+' then some false
      else if sign = '-' || sign = '\u2212' then some true
      else none
    if !(h₁.isDigit && h₂.isDigit) then none
    else
      let hours := (h₁.toNat - '0'.toNat) * 10 + (h₂.toNat - '0'.toNat)
      let rest := rest.dropWhile fun c => c = ':' || Text.isBlank c
      let (minutes, rest) ← match rest with
        | m₁ :: m₂ :: rest =>
          if '0' ≤ m₁ ∧ m₁ ≤ '5' ∧ m₂.isDigit then
            some ((m₁.toNat - '0'.toNat) * 10 + (m₂.toNat - '0'.toNat), rest)
          else none
        | _ => none
      let seconds : Int := hours * 3600 + minutes * 60
      if seconds < 86400 then some (if negative then -seconds else seconds, rest) else none
  | _ => none

/-- The offset `UTC` in any case, or one in digits. -/
def readZone? (cs : List Char) : Option (Int × List Char) :=
  if (cs.take 3).map Char.toUpper = ['U', 'T', 'C'] then some (0, cs.drop 3)
  else readOffset? cs

/-- The point in time that a text denotes. -/
def parse? (text : String) : Option Timestamp := do
  let (year, rest) ← readYear? text.toList
  let (month, rest) ← readPart? 1 12 (← readMark? '-' rest)
  let (day, rest) ← readPart? 1 31 (← readMark? '-' rest)
  let rest ← match rest with
    | c :: rest => if c = 'T' || c = 't' || c = ' ' then some rest else none
    | [] => none
  let (hour, rest) ← readPart? 0 23 rest
  let (minute, rest) ← readPart? 0 59 (← readMark? ':' rest)
  let (second, rest) ← readPart? 0 60 (← readMark? ':' rest)
  let (offset, rest) ← readZone? (Text.skipBlanks (← skipFraction? rest))
  if !(Text.skipBlanks rest).isEmpty || daysInMonth year month < day then none
  else
    let days := Date.toDays ⟨year, month, day⟩
    let seconds := days * 86400 + hour * 3600 + minute * 60 + min second 59 - offset
    if isYear (Date.ofDays (seconds / 86400)).year then some ⟨seconds, second = 60⟩ else none

end Timestamp

end SqlOperator
