import Mathlib.Data.Nat.Digits.Lemmas
import SqlOperator.Net.IpAddress
import SqlOperator.Proofs.Text.Cuts

/-!
# Blocks of addresses

A block is written as an address and a number of bits with a slash between them. It has all
addresses of that family whose first bits are those of the address. The number 32 is all bits
of an address of IPv4, but only a fourth of those of an address of IPv6.
-/

namespace SqlOperator

namespace IpAddress

/-- How many bits an address has. -/
def width : IpAddress → Nat
  | .v4 _ => 32
  | .v6 _ => 128

/-- The bits of an address as a number, the first bit the highest one. -/
def toNat : IpAddress → Nat
  | .v4 x => Nat.ofDigits (2 ^ 8) (x.octets.reverse.map UInt8.toNat)
  | .v6 x => Nat.ofDigits (2 ^ 16) (x.groups.reverse.map UInt16.toNat)

end IpAddress

/-- The addresses that start with the first bits of an address. -/
structure AddressBlock where
  base : IpAddress
  /-- How many bits are given. -/
  length : Nat
  length_le : length ≤ base.width
  deriving DecidableEq

namespace AddressBlock

/-- Read a block such as `10.0.0.0/8`. -/
def parse? (cs : List Char) : Option AddressBlock := do
  let (address, digits) ← Text.cutLast? '/' cs
  let base ← IpAddress.parse? address
  let length ← Text.decimal? digits
  if h : length ≤ base.width then some ⟨base, length, h⟩ else none

/-- The address is of the same family and has the same first bits. -/
def Contains (b : AddressBlock) (x : IpAddress) : Prop :=
  x.width = b.base.width ∧
    x.toNat / 2 ^ (x.width - b.length) = b.base.toNat / 2 ^ (b.base.width - b.length)

instance (b : AddressBlock) : DecidablePred b.Contains := fun _ =>
  inferInstanceAs (Decidable (_ ∧ _))

end AddressBlock

namespace IpAddress

theorem thirtyTwo_le_width (x : IpAddress) : 32 ≤ x.width := by
  cases x with
  | v4 => exact Nat.le_refl 32
  | v6 => exact (by decide : 32 ≤ 128)

/-- The block of the first 32 bits of an address. -/
def block (x : IpAddress) : AddressBlock := ⟨x, 32, x.thirtyTwo_le_width⟩

/-- The addresses have the same first 32 bits, which are all bits for IPv4 and the first two
groups for IPv6. -/
def SameStart : IpAddress → IpAddress → Prop
  | .v4 x, .v4 y => x = y
  | .v6 x, .v6 y => x.groups.take 2 = y.groups.take 2
  | _, _ => False

theorem SameStart.refl (x : IpAddress) : x.SameStart x := by
  cases x <;> rfl

/-- Numbers of equally many digits agree but for their last ones exactly if the other digits
are the same. -/
theorem ofDigits_div_pow_inj {b i : Nat} (hb : 1 < b) {xs ys : List Nat}
    (hlength : xs.length = ys.length) (hxs : ∀ d ∈ xs, d < b) (hys : ∀ d ∈ ys, d < b) :
    Nat.ofDigits b xs / b ^ i = Nat.ofDigits b ys / b ^ i ↔ xs.drop i = ys.drop i := by
  have hpos : 0 < b := Nat.lt_of_succ_lt hb
  rw [Nat.ofDigits_div_pow_eq_ofDigits_drop i hpos xs hxs,
    Nat.ofDigits_div_pow_eq_ofDigits_drop i hpos ys hys]
  refine ⟨fun h => ?_, fun h => by rw [h]⟩
  exact Nat.ofDigits_inj_of_len_eq hb (by simp [hlength])
    (fun d hd => hxs d (List.mem_of_mem_drop hd)) (fun d hd => hys d (List.mem_of_mem_drop hd)) h

theorem v4_toNat_inj {x y : Ipv4Address} : toNat (.v4 x) = toNat (.v4 y) ↔ x = y := by
  have hdigit : ∀ z : Ipv4Address, ∀ d ∈ z.octets.reverse.map UInt8.toNat, d < 2 ^ 8 := by
    intro z d hd
    obtain ⟨octet, -, rfl⟩ := List.mem_map.mp hd
    exact octet.toNat_lt
  refine ⟨fun h => ?_, fun h => h ▸ rfl⟩
  have hdigits := Nat.ofDigits_inj_of_len_eq (by decide) (by simp [Ipv4Address.octets])
    (hdigit x) (hdigit y) h
  obtain ⟨a, b, c, d⟩ := x
  obtain ⟨a', b', c', d'⟩ := y
  obtain ⟨rfl, rfl, rfl, rfl⟩ := by
    simpa [Ipv4Address.octets, UInt8.toNat_inj] using hdigits
  rfl

theorem v6_toNat_div_inj {x y : Ipv6Address} :
    toNat (.v6 x) / 2 ^ 96 = toNat (.v6 y) / 2 ^ 96 ↔ x.groups.take 2 = y.groups.take 2 := by
  have hdigit : ∀ z : Ipv6Address, ∀ d ∈ z.groups.reverse.map UInt16.toNat, d < 2 ^ 16 := by
    intro z d hd
    obtain ⟨group, -, rfl⟩ := List.mem_map.mp hd
    exact group.toNat_lt
  have hdrop : ∀ z : Ipv6Address, (z.groups.reverse.map UInt16.toNat).drop 6 =
      ((z.groups.take 2).map UInt16.toNat).reverse := by
    intro z
    rw [← List.map_drop, List.drop_reverse, z.length_eq, List.map_reverse]
  have hpow : 2 ^ 96 = (2 ^ 16) ^ 6 := by norm_num
  rw [hpow, toNat, toNat, ofDigits_div_pow_inj (by decide)
    (by simp [x.length_eq, y.length_eq]) (hdigit x) (hdigit y), hdrop, hdrop, List.reverse_inj]
  exact (List.map_injective_iff.mpr fun _ _ => UInt16.toNat_inj.mp).eq_iff

/-- The block of the first 32 bits of an address has the addresses that start with them. -/
theorem contains_block {x y : IpAddress} : x.block.Contains y ↔ x.SameStart y := by
  cases x with
  | v4 x =>
    cases y with
    | v4 y =>
      have hbits : 2 ^ (32 - 32) = 1 := rfl
      simp only [AddressBlock.Contains, block, width, SameStart, hbits, Nat.div_one, true_and,
        v4_toNat_inj, eq_comm]
    | v6 y => simp [AddressBlock.Contains, block, width, SameStart]
  | v6 x =>
    cases y with
    | v4 y => simp [AddressBlock.Contains, block, width, SameStart]
    | v6 y =>
      have hbits : 128 - 32 = 96 := rfl
      simp only [AddressBlock.Contains, block, width, SameStart, hbits, true_and,
        v6_toNat_div_inj, eq_comm]

/-- What is written in front of a slash and 32 is read as that block. -/
theorem parse?_append_slash (cs : List Char) :
    AddressBlock.parse? (cs ++ "/32".toList) = (parse? cs).map block := by
  have hcut : Text.cutLast? '/' (cs ++ "/32".toList) = some (cs, ['3', '2']) :=
    Text.cutLast?_append_cons (by decide) cs
  have hdigits : Text.decimal? ['3', '2'] = some 32 := by decide
  simp only [AddressBlock.parse?, hcut, hdigits, Option.bind_eq_bind, Option.bind_some]
  cases parse? cs with
  | none => rfl
  | some x => simp [block, x.thirtyTwo_le_width]

end IpAddress

end SqlOperator
