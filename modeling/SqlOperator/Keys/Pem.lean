import SqlOperator.Text.Base64
import SqlOperator.Text.Split

/-!
# PEM blocks

A block is base64 text between a BEGIN line and an END line of one label, in
lines of 64 characters, the last of which may be shorter. A bundle is any text
with blocks in it; the block of a label runs from the first BEGIN marker to the
first END marker that starts at or after it.
-/

namespace SqlOperator.Pem

/-- The marker that opens a block, without the end of its line. -/
def beginMarker (label : String) : List Char := ("-----BEGIN " ++ label ++ "-----").toList

/-- The marker that closes a block. -/
def endMarker (label : String) : List Char := ("-----END " ++ label ++ "-----").toList

/-- The block of a label in a bundle, its markers included. -/
def block? (label : String) (bundle : List Char) : Option (List Char) := do
  let (_, after) ← Text.cutFirst? (beginMarker label) bundle
  let (body, _) ← Text.cutFirst? (endMarker label) (beginMarker label ++ after)
  some (body ++ endMarker label)

/-- What is left after a line break in front: LF, CR LF or CR. -/
def stripBreak? : List Char → Option (List Char)
  | '\r' :: '\n' :: rest => some rest
  | '\r' :: rest => some rest
  | '\n' :: rest => some rest
  | _ => none

theorem stripBreak?_length {cs rest : List Char} (h : stripBreak? cs = some rest) :
    rest.length < cs.length := by
  unfold stripBreak? at h
  split at h
  · cases h
    simp only [List.length_cons]
    omega
  · cases h
    simp
  · cases h
    simp
  · simp at h

/-- What is left without a line break at the end. -/
def stripLastBreak? (cs : List Char) : Option (List Char) :=
  match cs.reverse with
  | '\n' :: '\r' :: rest => some rest.reverse
  | '\n' :: rest => some rest.reverse
  | '\r' :: rest => some rest.reverse
  | _ => none

/-- The lines of a text: 64 characters each as long as more than 64 are left,
then the rest if there is any, whose own line break is dropped. -/
def lines? (cs : List Char) : Option (List (List Char)) :=
  if cs.isEmpty then some []
  else if cs.length ≤ 64 then some [(stripLastBreak? cs).getD cs]
  else
    match _h : stripBreak? (cs.drop 64) with
    | some rest => (lines? rest).map (cs.take 64 :: ·)
    | none => none
termination_by cs.length
decreasing_by
  have hlt := stripBreak?_length _h
  simp only [List.length_drop] at hlt
  omega

/-- The bytes of the base64 text of a block. -/
def decodeText? (cs : List Char) : Option Bytes := do
  let lines ← lines? cs
  if cs.isEmpty || lines.dropLast.any (·.contains '=') then none
  else
    match ← Text.Base64.decode? .standard lines.flatten with
    | [] => none
    | bytes => some bytes

/-- The bytes of a block of a label. -/
def decode? (label : String) (block : List Char) : Option Bytes := do
  let (before, after) ← Text.cutFirst? (beginMarker label) block
  let inner := after.take (after.length - (endMarker label).length)
  if before.isEmpty && inner ++ endMarker label = after then
    decodeText? (← stripLastBreak? (← stripBreak? inner))
  else none

end SqlOperator.Pem
