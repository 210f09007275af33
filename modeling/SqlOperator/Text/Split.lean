/-!
# Cutting a text at separators

The fields of a text are the parts between its separators, so a text has one
field more than it has separators, and joining the fields gives the text back.
-/

namespace SqlOperator.Text

/-- The parts of a text between the separators `sep`. -/
def fields (sep : Char) : List Char → List (List Char)
  | [] => [[]]
  | c :: rest =>
    if c = sep then [] :: fields sep rest
    else
      match fields sep rest with
      | [] => [[c]]
      | field :: more => (c :: field) :: more

/-- The parts in order with `sep` between them. -/
def join (sep : List Char) (parts : List (List Char)) : List Char :=
  (parts.intersperse sep).flatten

/-- Cut at the first occurrence of `mark`: the text before it and after it. -/
def cutFirst? (mark : List Char) : List Char → Option (List Char × List Char)
  | [] => if mark = [] then some ([], []) else none
  | c :: rest =>
    if mark.isPrefixOf (c :: rest) then some ([], (c :: rest).drop mark.length)
    else (cutFirst? mark rest).map fun (before, after) => (c :: before, after)

/-- Cut at the last `sep`: the text before it and after it. -/
def cutLast? (sep : Char) (cs : List Char) : Option (List Char × List Char) :=
  let after := (cs.reverse.takeWhile (· != sep)).reverse
  match cs.reverse.dropWhile (· != sep) with
  | [] => none
  | _ :: before => some (before.reverse, after)

theorem fields_ne_nil (sep : Char) (cs : List Char) : fields sep cs ≠ [] := by
  induction cs with
  | nil => simp [fields]
  | cons c rest ih =>
    unfold fields
    split
    · simp
    · split <;> simp

/-- The number that a nonempty list of decimal digits denotes. -/
def decimal? (digits : List Char) : Option Nat :=
  if digits.isEmpty || !digits.all Char.isDigit then none
  else some (digits.foldl (fun n c => n * 10 + (c.toNat - '0'.toNat)) 0)

end SqlOperator.Text
