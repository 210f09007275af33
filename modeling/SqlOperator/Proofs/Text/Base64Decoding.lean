import SqlOperator.Text.Base64

/-!
# Reading Base64

A reader of Base64 takes every four digits for three bytes, and a shorter last group, which
padding completes if it is there, for one or two. It finds the bytes that were encoded, so that
texts differ where the bytes do.
-/

namespace SqlOperator.Text.Base64

/-- What completes the last group of a text. -/
def padding (cs : List Char) : List Char := List.replicate ((4 - cs.length % 4) % 4) '='

/-- Read a text without padding, which has to be complete with it. -/
def decodeUnpadded? (a : Alphabet) (cs : List Char) : Option Bytes :=
  if '=' ∈ cs then none else decode? a (cs ++ padding cs)

/-- The digits of the alphabet are told from each other and from padding. -/
def Alphabet.Readable (a : Alphabet) : Prop :=
  ∀ n < 64, value? a (digit a n) = some n ∧ digit a n ≠ '='

instance (a : Alphabet) : Decidable a.Readable :=
  inferInstanceAs (Decidable (∀ n < 64, _))

theorem readable_urlSafe : Alphabet.urlSafe.Readable := by decide

variable {a : Alphabet} {bytes : Bytes}

/-- The padding is all that the two forms differ in. -/
theorem encode_true_eq (a : Alphabet) (bytes : Bytes) :
    encode a true bytes = encode a false bytes ++ padding (encode a false bytes) := by
  fun_induction encode a false bytes with
  | case1 => rfl
  | case2 x n => simp [encode, padding, n]
  | case3 x y n => simp [encode, padding, n]
  | case4 x y z rest n ih =>
    have hpadding : ∀ c d e f (cs : List Char), padding (c :: d :: e :: f :: cs) = padding cs := by
      intro c d e f cs
      simp only [padding, List.length_cons]
      congr 1
      omega
    simp only [encode, ih, List.cons_append, List.nil_append, hpadding, n]

/-- Four characters for three bytes, two for one byte that is left, and three for two. -/
theorem length_encode_false (a : Alphabet) (bytes : Bytes) :
    (encode a false bytes).length = (bytes.length * 4 + 2) / 3 := by
  fun_induction encode a false bytes with
  | case1 => rfl
  | case2 x n => simp
  | case3 x y n => simp
  | case4 x y z rest n ih =>
    simp only [List.length_append, List.length_cons, List.length_nil, ih]
    omega

theorem exists_digit_of_mem_encode_false {c : Char} (h : c ∈ encode a false bytes) :
    ∃ n < 64, c = digit a n := by
  fun_induction encode a false bytes with
  | case1 => cases h
  | case2 x n =>
    have hx := x.toNat_lt
    simp only [Bool.false_eq_true, if_false, List.append_nil, List.mem_cons, List.not_mem_nil,
      or_false] at h
    rcases h with rfl | rfl
    · exact ⟨_, by omega, rfl⟩
    · exact ⟨_, by omega, rfl⟩
  | case3 x y n =>
    have hx := x.toNat_lt
    have hy := y.toNat_lt
    simp only [Bool.false_eq_true, if_false, List.append_nil, List.mem_cons, List.not_mem_nil,
      or_false] at h
    rcases h with rfl | rfl | rfl
    · exact ⟨_, by omega, rfl⟩
    · exact ⟨_, by omega, rfl⟩
    · exact ⟨_, by omega, rfl⟩
  | case4 x y z rest n ih =>
    have hx := x.toNat_lt
    have hy := y.toNat_lt
    have hz := z.toNat_lt
    simp only [List.cons_append, List.nil_append, List.mem_cons] at h
    rcases h with rfl | rfl | rfl | rfl | h
    · exact ⟨_, by omega, rfl⟩
    · exact ⟨_, by omega, rfl⟩
    · exact ⟨_, by omega, rfl⟩
    · exact ⟨_, by omega, rfl⟩
    · exact ih h

/-- A full group is read as three bytes in front of what the rest is read as. -/
theorem decode?_group {p q r s : Nat} (ha : a.Readable) (hp : p < 64) (hq : q < 64) (hr : r < 64)
    (hs : s < 64) (rest : List Char) :
    decode? a (digit a p :: digit a q :: digit a r :: digit a s :: rest) =
      (decode? a rest).map fun more =>
        let n := ((p * 64 + q) * 64 + r) * 64 + s
        UInt8.ofNat (n / 65536) :: UInt8.ofNat (n / 256 % 256) :: UInt8.ofNat (n % 256) ::
          more := by
  have hne := (ha s hs).2
  rw [decode?]
  · simp only [(ha p hp).1, (ha q hq).1, (ha r hr).1, (ha s hs).1]
    cases decode? a rest <;> rfl
  · exact fun _ h _ => hne h
  · exact fun h _ => hne h

theorem ofNat_eq {b : UInt8} {n : Nat} (h : n = b.toNat) : UInt8.ofNat n = b := by
  rw [h, UInt8.ofNat_toNat]

/-- What is encoded with padding is read as the same bytes. -/
theorem decode?_encode (ha : a.Readable) (bytes : Bytes) :
    decode? a (encode a true bytes) = some bytes := by
  fun_induction encode a true bytes with
  | case1 => rfl
  | case2 x n =>
    have hx := x.toNat_lt
    have hhigh := ha (n / 64) (by omega)
    have hlow := ha (n % 64) (by omega)
    have hn : n / 64 * 64 + n % 64 = x.toNat * 16 := by omega
    simp only [if_true, List.cons_append, List.nil_append, decode?, decodeLast?, hhigh.1, hlow.1,
      Option.bind_eq_bind, Option.bind_some, hn, Nat.mul_mod_left]
    rw [ofNat_eq (b := x) (by omega)]
  | case3 x y n =>
    have hx := x.toNat_lt
    have hy := y.toNat_lt
    have hfirst := ha (n / 4096) (by omega)
    have hsecond := ha (n / 64 % 64) (by omega)
    have hthird := ha (n % 64) (by omega)
    have hn : (n / 4096 * 64 + n / 64 % 64) * 64 + n % 64 = n := by omega
    have hunused : n % 4 = 0 := by omega
    simp only [if_true, List.cons_append, List.nil_append]
    rw [decode?]
    · simp only [decodeLast?, hfirst.1, hsecond.1, hthird.1, Option.bind_eq_bind, Option.bind_some,
        hn, hunused, if_true]
      rw [ofNat_eq (b := x) (by omega), ofNat_eq (b := y) (by omega)]
    · exact hthird.2
  | case4 x y z rest n ih =>
    have hx := x.toNat_lt
    have hy := y.toNat_lt
    have hz := z.toNat_lt
    simp only [List.cons_append, List.nil_append]
    rw [decode?_group ha (by omega) (by omega) (by omega) (by omega), ih, Option.map_some]
    have hn : ((n / 262144 * 64 + n / 4096 % 64) * 64 + n / 64 % 64) * 64 + n % 64 = n := by omega
    simp only [hn]
    rw [ofNat_eq (b := x) (by omega), ofNat_eq (b := y) (by omega), ofNat_eq (b := z) (by omega)]

/-- Texts without padding are read back. -/
theorem decodeUnpadded?_encode (ha : a.Readable) (bytes : Bytes) :
    decodeUnpadded? a (encode a false bytes) = some bytes := by
  have hunpadded : '=' ∉ encode a false bytes := by
    intro h
    obtain ⟨n, hn, heq⟩ := exists_digit_of_mem_encode_false h
    exact (ha n hn).2 heq.symm
  rw [decodeUnpadded?, if_neg hunpadded, ← encode_true_eq, decode?_encode ha]

end SqlOperator.Text.Base64
