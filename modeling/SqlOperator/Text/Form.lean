import SqlOperator.Text.Percent

/-!
# Form-encoded parameters

A parameter is written `name=value`, parameters are separated by `&`. ASCII
letters and digits and `*`, `-`, `.`, `_` stand for themselves, a space is `+`,
and every other byte is percent-encoded.
-/

namespace SqlOperator.Text.Form

/-- A byte that stands for itself. -/
def isPlain (b : UInt8) : Bool :=
  let c := Char.ofNat b.toNat
  b < 0x80 && (c.isAlphanum || c ∈ ['*', '-', '.', '_'])

/-- The written form of a byte. -/
def encodeByte (b : UInt8) : List Char :=
  if b = 0x20 then ['+']
  else if isPlain b then [Char.ofNat b.toNat]
  else Percent.encodeByte b

/-- The written form of a name or a value. -/
def encodeText (text : String) : List Char := (Bytes.ofText text).flatMap encodeByte

/-- A name and its value. -/
def encodeParameter (parameter : String × String) : List Char :=
  encodeText parameter.1 ++ '=' :: encodeText parameter.2

/-- The parameters in order, separated by `&`. -/
def encode (parameters : List (String × String)) : List Char :=
  ((parameters.map encodeParameter).intersperse ['&']).flatten

end SqlOperator.Text.Form
