import SqlOperator.Text.Hex
import SqlOperator.Text.Split

/-!
# IP address literals

An IPv4 literal is four decimal numbers below 256 without leading zeros. An IPv6
literal is eight groups of one to four hexadecimal digits, of which one run of
zero groups may be left out as `::`, and whose last two groups may be written as
an IPv4 literal.
-/

namespace SqlOperator

/-- An IPv4 address by its four bytes. -/
structure Ipv4Address where
  a : UInt8
  b : UInt8
  c : UInt8
  d : UInt8
  deriving DecidableEq, Inhabited

namespace Ipv4Address

/-- A decimal number below 256 without leading zeros. -/
def octet? (digits : List Char) : Option UInt8 :=
  if 3 < digits.length || (1 < digits.length && digits.head? = some '0') then none
  else (Text.decimal? digits).bind fun n => if n < 256 then some (UInt8.ofNat n) else none

/-- Four numbers with dots between them. -/
def parse? (cs : List Char) : Option Ipv4Address :=
  match Text.fields '.' cs with
  | [a, b, c, d] => do
    some ⟨← octet? a, ← octet? b, ← octet? c, ← octet? d⟩
  | _ => none

def octets (x : Ipv4Address) : List UInt8 := [x.a, x.b, x.c, x.d]

/-- The literal, whose numbers have no leading zeros. -/
def render (x : Ipv4Address) : List Char :=
  Text.join ['.'] (x.octets.map fun n => Nat.toDigits 10 n.toNat)

/-- The address as two groups of an IPv6 address. -/
def groups (x : Ipv4Address) : List UInt16 :=
  [UInt16.ofNat (x.a.toNat * 256 + x.b.toNat), UInt16.ofNat (x.c.toNat * 256 + x.d.toNat)]

end Ipv4Address

/-- An IPv6 address by its eight groups of 16 bits. -/
structure Ipv6Address where
  groups : List UInt16
  length_eq : groups.length = 8
  deriving DecidableEq

namespace Ipv6Address

/-- The address of these groups, if they are eight. -/
def ofGroups? (groups : List UInt16) : Option Ipv6Address :=
  if h : groups.length = 8 then some ⟨groups, h⟩ else none

/-- A group of one to four hexadecimal digits. -/
def group? (digits : List Char) : Option UInt16 :=
  if digits.isEmpty || 4 < digits.length then none
  else (Text.Hex.toNat? digits).map UInt16.ofNat

/-- Groups separated by colons, the last two of which may be an IPv4 literal. -/
def groups? (cs : List Char) : Option (List UInt16) :=
  if cs.isEmpty then some []
  else
    let parts := Text.fields ':' cs
    match parts.getLast?.bind Ipv4Address.parse? with
    | some v4 => do some ((← parts.dropLast.mapM group?) ++ v4.groups)
    | none => parts.mapM group?

/-- Eight groups, or fewer of them with `::` in place of at least one. -/
def parse? (cs : List Char) : Option Ipv6Address :=
  match Text.cutFirst? [':', ':'] cs with
  | some (before, after) => do
    let front ← if before.isEmpty then some [] else (Text.fields ':' before).mapM group?
    let back ← groups? after
    let missing := 8 - (front.length + back.length)
    if missing = 0 then none else ofGroups? (front ++ List.replicate missing 0 ++ back)
  | none => (groups? cs).bind ofGroups?

/-- The number of zero groups in front. -/
def leadingZeros (groups : List UInt16) : Nat := (groups.takeWhile (· = 0)).length

/-- Start and length of the longest run of zero groups, the first of several;
a run has at least two groups. -/
def zeroRun (groups : List UInt16) : Nat × Nat :=
  (List.range groups.length).foldl
    (fun best i =>
      let n := leadingZeros (groups.drop i)
      if best.2 < n then (i, n) else best)
    (0, 1)

/-- Groups without leading zeros, separated by colons. -/
def renderGroups (groups : List UInt16) : List Char :=
  Text.join [':'] (groups.map fun n => Text.Hex.ofNat n.toNat)

/-- The literal with its longest run of zero groups left out. -/
def render (x : Ipv6Address) : List Char :=
  let (start, length) := zeroRun x.groups
  if length < 2 then renderGroups x.groups
  else
    renderGroups (x.groups.take start) ++ ':' :: ':' ::
      renderGroups (x.groups.drop (start + length))

/-- The IPv4 address that is mapped to this one. -/
def mappedV4? (x : Ipv6Address) : Option Ipv4Address :=
  match x.groups with
  | [0, 0, 0, 0, 0, 0xffff, g, h] =>
    some ⟨UInt8.ofNat (g.toNat / 256), UInt8.ofNat (g.toNat % 256),
      UInt8.ofNat (h.toNat / 256), UInt8.ofNat (h.toNat % 256)⟩
  | _ => none

/-- The literal, with a mapped IPv4 address shown as such. -/
def renderMapped (x : Ipv6Address) : List Char :=
  match x.mappedV4? with
  | some v4 => "::ffff:".toList ++ v4.render
  | none => x.render

end Ipv6Address

/-- An address of either family. -/
inductive IpAddress where
  | v4 (address : Ipv4Address)
  | v6 (address : Ipv6Address)
  deriving DecidableEq

/-- A literal of either family. -/
def IpAddress.parse? (cs : List Char) : Option IpAddress :=
  match Ipv4Address.parse? cs with
  | some a => some (.v4 a)
  | none => (Ipv6Address.parse? cs).map .v6

end SqlOperator
