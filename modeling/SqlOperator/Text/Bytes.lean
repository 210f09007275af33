/-!
# Bytes and their text

Secret values are bytes. A text is stored as its UTF-8 bytes, and bytes are
read as a text only when they are valid UTF-8.
-/

namespace SqlOperator

/-- A byte string. -/
abbrev Bytes := List UInt8

namespace Bytes

/-- The UTF-8 bytes of a text. -/
def ofText (text : String) : Bytes := text.toUTF8.data.toList

/-- The text whose UTF-8 bytes these are, if they are valid UTF-8. -/
def toText? (bytes : Bytes) : Option String := String.fromUTF8? ⟨bytes.toArray⟩

@[simp] theorem toText?_ofText (text : String) : (ofText text).toText? = some text := by
  have h : (⟨(ofText text).toArray⟩ : ByteArray) = text.toUTF8 := by
    simp [ofText]
  have hv : text.toUTF8.IsValidUTF8 := text.isValidUTF8
  simp only [toText?, h, String.fromUTF8?, hv, dite_true, Option.some.injEq]
  rfl

theorem ofText_injective {a b : String} (h : ofText a = ofText b) : a = b := by
  have := toText?_ofText a
  rw [h, toText?_ofText] at this
  exact (Option.some.inj this).symm

/-- The number whose big-endian digits to base 256 these are. -/
def toNat (bytes : Bytes) : Nat := bytes.foldl (fun n b => n * 256 + b.toNat) 0

/-- The big-endian bytes of a number, without leading zero bytes. -/
def ofNat (n : Nat) : Bytes :=
  if n = 0 then [] else ofNat (n / 256) ++ [UInt8.ofNat (n % 256)]
termination_by n

end Bytes

end SqlOperator
