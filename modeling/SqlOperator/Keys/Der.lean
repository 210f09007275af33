import SqlOperator.Text.Bytes

/-!
# Elements of DER

An element is a tag, a length and that many bytes of content. Lengths are
written in the shortest way, and unsigned integers without superfluous zeros, so
an element has one written form.
-/

namespace SqlOperator.Der

/-- A tagged content. -/
structure Element where
  tag : UInt8
  content : Bytes
  deriving DecidableEq

def integerTag : UInt8 := 0x02
def octetStringTag : UInt8 := 0x04
def nullTag : UInt8 := 0x05
def identifierTag : UInt8 := 0x06
def sequenceTag : UInt8 := 0x30

/-- The first byte of a long length of `n` bytes. -/
def longLength (n : Nat) : UInt8 := UInt8.ofNat (0x80 + n)

/-- One byte for a length below 128, else the number of its bytes and these. -/
def encodeLength (n : Nat) : Bytes :=
  if n < 0x80 then [UInt8.ofNat n]
  else longLength (Bytes.ofNat n).length :: Bytes.ofNat n

/-- An element in its one written form. -/
def encode (tag : UInt8) (content : Bytes) : Bytes :=
  tag :: (encodeLength content.length ++ content)

/-- The written form of an unsigned integer. A zero byte keeps it from being
read as a negative one. -/
def encodeNat (n : Nat) : Bytes :=
  let digits := Bytes.ofNat n
  match digits with
  | [] => encode integerTag [0]
  | b :: _ => encode integerTag (if 0x80 ≤ b then 0 :: digits else digits)

/-- Written elements as the content of one. -/
def sequence (elements : List Bytes) : Bytes := encode sequenceTag elements.flatten

/-- Tags of the universal, application, context and private classes that are in
use; a number above 30 does not fit into one byte. -/
def isTag (tag : UInt8) : Bool :=
  let n := tag.toNat
  if n < 0x40 then
    n ∈ [0x01, 0x02, 0x03, 0x04, 0x05, 0x06, 0x09, 0x0a, 0x0c, 0x12, 0x13, 0x14, 0x15, 0x16,
      0x17, 0x18, 0x1a, 0x1b, 0x1e, 0x30, 0x31]
  else n % 32 != 31

/-- A length and the bytes behind it. -/
def readLength? : Bytes → Option (Nat × Bytes)
  | [] => none
  | b :: rest =>
    if b < 0x80 then some (b.toNat, rest)
    else
      let size := b.toNat - 0x80
      let digits := rest.take size
      let n := Bytes.toNat digits
      if 1 ≤ size ∧ size ≤ 4 ∧ digits.length = size ∧ digits.head? ≠ some 0 ∧ 0x80 ≤ n ∧
          n ≤ 0xfffffff then
        some (n, rest.drop size)
      else none

/-- An element and the bytes behind it. -/
def read? : Bytes → Option (Element × Bytes)
  | [] => none
  | tag :: rest =>
    if isTag tag then do
      let (length, rest) ← readLength? rest
      if length ≤ rest.length then some (⟨tag, rest.take length⟩, rest.drop length) else none
    else none

theorem readLength?_length {bytes rest : Bytes} {n : Nat}
    (h : readLength? bytes = some (n, rest)) : rest.length < bytes.length := by
  cases bytes with
  | nil => simp [readLength?] at h
  | cons b tail =>
    simp only [readLength?] at h
    split at h
    · simp only [Option.some.injEq, Prod.mk.injEq] at h
      simp [← h.2]
    · split at h
      · simp only [Option.some.injEq, Prod.mk.injEq] at h
        rw [← h.2, List.length_drop, List.length_cons]
        omega
      · simp at h

theorem read?_length {bytes rest : Bytes} {e : Element}
    (h : read? bytes = some (e, rest)) : rest.length < bytes.length := by
  cases bytes with
  | nil => simp [read?] at h
  | cons tag tail =>
    simp only [read?] at h
    split at h
    · cases hl : readLength? tail with
      | none => simp [hl] at h
      | some found =>
        obtain ⟨n, more⟩ := found
        have hlen := readLength?_length hl
        simp only [hl, Option.bind_eq_bind, Option.bind_some] at h
        split at h
        · simp only [Option.some.injEq, Prod.mk.injEq] at h
          rw [← h.2, List.length_drop, List.length_cons]
          omega
        · simp at h
    · simp at h

/-- The content of the one element that these bytes are. -/
def readOnly? (tag : UInt8) (bytes : Bytes) : Option Bytes :=
  match read? bytes with
  | some (e, []) => if e.tag = tag then some e.content else none
  | _ => none

/-- The content of the first element, which has the given tag, and the bytes behind it. -/
def readTagged? (tag : UInt8) (bytes : Bytes) : Option (Bytes × Bytes) :=
  (read? bytes).bind fun (e, rest) => if e.tag = tag then some (e.content, rest) else none

/-- The unsigned integer that a content denotes in its one written form. -/
def natOfContent? : Bytes → Option Nat
  | [] => none
  | [b] => if b < 0x80 then some b.toNat else none
  | b :: c :: rest =>
    if 0x80 ≤ b || (b = 0 && c < 0x80) then none else some (Bytes.toNat (b :: c :: rest))

/-- An unsigned integer and the bytes behind it. -/
def readNat? (bytes : Bytes) : Option (Nat × Bytes) := do
  let (content, rest) ← readTagged? integerTag bytes
  some (← natOfContent? content, rest)

/-- A number of unsigned integers and the bytes behind them. -/
def readNats? : Nat → Bytes → Option (List Nat × Bytes)
  | 0, bytes => some ([], bytes)
  | count + 1, bytes => do
    let (n, rest) ← readNat? bytes
    let (more, rest) ← readNats? count rest
    some (n :: more, rest)

end SqlOperator.Der
