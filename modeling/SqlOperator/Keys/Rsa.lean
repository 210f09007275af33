import SqlOperator.Keys.Der

/-!
# RSA private keys

A private key is a modulus, two exponents and the two primes; the exponents and
the coefficient for the Chinese remainder theorem follow from these. In PKCS #1
form it is a sequence of all of these numbers. In PKCS #8 form that sequence is
wrapped together with the identifier of the algorithm.
-/

namespace SqlOperator

/-- A private key by the numbers that the others follow from. -/
structure RsaKey where
  modulus : Nat
  publicExponent : Nat
  privateExponent : Nat
  p : Nat
  q : Nat
  deriving DecidableEq

namespace RsaKey

/-- The greatest common divisor of two numbers and factors that combine them to it. -/
def bezout (a b : Nat) : Nat × Int × Int :=
  if b = 0 then (a, 1, 0)
  else
    let (g, x, y) := bezout b (a % b)
    (g, y, x - (a / b : Nat) * y)
termination_by b
decreasing_by exact Nat.mod_lt _ (by omega)

/-- The inverse of `a` modulo `m`, if there is one. -/
def inverse? (a m : Nat) : Option Nat :=
  let (g, x, _) := bezout (a % m) m
  if g = 1 then some (x % m).toNat else none

/-- Whether the numbers make up a key: an odd modulus of any size that is the
product of the primes, an odd public exponent above 1 that is below the modulus and
fits 33 bits, and a private exponent that undoes it. -/
def isValid (k : RsaKey) : Bool :=
  k.publicExponent < k.modulus && k.modulus % 2 = 1 && k.publicExponent % 2 = 1 &&
    2 ≤ k.publicExponent && k.publicExponent ≤ 0x1ffffffff &&
    1 < k.p && 1 < k.q && k.p * k.q = k.modulus &&
    k.privateExponent * k.publicExponent % (k.p - 1) = 1 &&
    k.privateExponent * k.publicExponent % (k.q - 1) = 1

/-- Read a key in PKCS #1 form. The numbers that follow from the others are
only read as numbers. -/
def ofPkcs1? (der : Bytes) : Option RsaKey := do
  let body ← Der.readOnly? Der.sequenceTag der
  match ← Der.readNats? 9 body with
  | ([0, n, e, d, p, q, _, _, _], []) =>
    let key : RsaKey := ⟨n, e, d, p, q⟩
    if key.isValid then some key else none
  | _ => none

/-- The identifier of the algorithm, with its empty parameters. -/
def algorithm : Bytes :=
  Der.encode Der.identifierTag [0x2a, 0x86, 0x48, 0x86, 0xf7, 0x0d, 0x01, 0x01, 0x01] ++
    Der.encode Der.nullTag []

/-- The bytes behind elements of the context class with the number 0. -/
def skipAttributes? (bytes : Bytes) : Option Bytes :=
  if bytes.head?.any fun tag => tag = 0x80 || tag = 0xa0 then
    match _h : Der.read? bytes with
    | some (_, rest) => skipAttributes? rest
    | none => none
  else some bytes
termination_by bytes.length
decreasing_by exact Der.read?_length _h

/-- Whether the bytes are extensions: constructed elements of the context class
around one element each. -/
def areExtensions (bytes : Bytes) : Bool :=
  if bytes.isEmpty then true
  else
    match _h : Der.read? bytes with
    | some (e, rest) =>
      0xa0 ≤ e.tag && e.tag < 0xc0 && ((Der.read? e.content).any fun x => x.2.isEmpty) &&
        areExtensions rest
    | none => false
termination_by bytes.length
decreasing_by exact Der.read?_length _h

/-- Whether the bytes are what may follow the private key of a version:
attributes, a public key exactly in version 1, and extensions. -/
def isTrailer (version : Nat) (bytes : Bytes) : Bool :=
  match skipAttributes? bytes with
  | none => false
  | some rest =>
    match Der.read? rest with
    | some (e, more) =>
      if e.tag = 0x81 then version = 1 && e.content.head? = some 0 && areExtensions more
      else if e.tag = 0xa1 then false
      else version = 0 && areExtensions rest
    | none => version = 0 && rest.isEmpty

/-- Read a key in PKCS #8 form. -/
def ofPkcs8? (der : Bytes) : Option RsaKey := do
  let body ← Der.readOnly? Der.sequenceTag der
  let (version, rest) ← Der.readNat? body
  let (identifier, rest) ← Der.readTagged? Der.sequenceTag rest
  let (key, rest) ← Der.readTagged? Der.octetStringTag rest
  if version ≤ 1 && identifier = algorithm && isTrailer version rest then ofPkcs1? key else none

/-- The PKCS #1 form with the given coefficient. -/
def toPkcs1 (k : RsaKey) (coefficient : Nat) : Bytes :=
  Der.sequence <|
    [0, k.modulus, k.publicExponent, k.privateExponent, k.p, k.q,
      k.privateExponent % (k.p - 1), k.privateExponent % (k.q - 1), coefficient].map
    Der.encodeNat

/-- The PKCS #8 form, which takes the second prime to have an inverse modulo
the first one. -/
def toPkcs8? (k : RsaKey) : Option Bytes :=
  (inverse? k.q k.p).map fun coefficient =>
    Der.sequence
      [Der.encodeNat 0, Der.encode Der.sequenceTag algorithm,
        Der.encode Der.octetStringTag (k.toPkcs1 coefficient)]

end RsaKey

end SqlOperator
