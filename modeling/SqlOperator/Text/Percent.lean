import SqlOperator.Text.Hex

/-!
# Percent-encoding

A percent-encoder replaces the characters of a set by the bytes of their UTF-8
form, each written as `%` and two upper-case hexadecimal digits, and leaves all
others. The sets below grow from one to the next: control characters, query,
fragment, path, user information.
-/

namespace SqlOperator.Text.Percent

/-- `%` and the two digits of a byte. -/
def encodeByte (b : UInt8) : List Char :=
  ['%', Hex.upper (b.toNat / 16), Hex.upper (b.toNat % 16)]

/-- The percent-encoded form of every byte of a character. -/
def encodeChar (c : Char) : List Char := (String.utf8EncodeChar c).flatMap encodeByte

/-- Encode the characters of the set `escaped`. -/
def encode (escaped : Char → Bool) (cs : List Char) : List Char :=
  cs.flatMap fun c => if escaped c then encodeChar c else [c]

/-- Control characters and everything outside ASCII. -/
def isControl (c : Char) : Bool := c.toNat < 0x20 || 0x7f ≤ c.toNat

/-- The set for a query. -/
def isQueryEscaped (c : Char) : Bool := isControl c || c ∈ [' ', '\x22', '#', '<', '>']

/-- The set for a fragment. -/
def isFragmentEscaped (c : Char) : Bool :=
  isControl c || c ∈ [' ', '\x22', '<', '>', '\x60']

/-- The set for a path, which the percent sign is not in. -/
def isPathEscaped (c : Char) : Bool :=
  isFragmentEscaped c || c ∈ ['#', '?', '\x7b', '\x7d']

/-- The set for user names and passwords, which the percent sign is not in. -/
def isUserinfoEscaped (c : Char) : Bool :=
  isPathEscaped c || c ∈ ['/', ':', ';', '=', '@', '[', '\\', ']', '^', '|']

theorem encode_cons (escaped : Char → Bool) (c : Char) (cs : List Char) :
    encode escaped (c :: cs) =
      (if escaped c then encodeChar c else [c]) ++ encode escaped cs := by
  simp [encode]

theorem encode_append (escaped : Char → Bool) (xs ys : List Char) :
    encode escaped (xs ++ ys) = encode escaped xs ++ encode escaped ys := by
  simp [encode]

end SqlOperator.Text.Percent
