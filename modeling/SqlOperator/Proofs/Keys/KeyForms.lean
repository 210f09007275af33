import Mathlib.Algebra.Group.Nat.Defs
import SqlOperator.Keys.PrivateKey

/-!
# Keys in PKCS #8 form

A key that is written in PKCS #8 form is read from it as the same key. So a key that was
converted is the key that the PEM text has.

## Implementation notes

Every length of an element is bounded by the length of the whole, so that one bound on the bytes
of a key is enough for all that is inside of it.
-/

namespace SqlOperator

namespace Bytes

theorem toNat_append_singleton (bytes : Bytes) (b : UInt8) :
    toNat (bytes ++ [b]) = toNat bytes * 256 + b.toNat := by
  simp [toNat, List.foldl_append]

theorem toNat_zero_cons (bytes : Bytes) : toNat (0 :: bytes) = toNat bytes := by
  simp [toNat]

theorem ofNat_of_pos {n : Nat} (h : n ≠ 0) :
    ofNat n = ofNat (n / 256) ++ [UInt8.ofNat (n % 256)] := by
  rw [ofNat, if_neg h]

theorem toNat_ofNat (n : Nat) : toNat (ofNat n) = n := by
  induction n using Nat.strongRecOn with
  | _ n ih =>
    by_cases hn : n = 0
    · subst hn
      rw [ofNat, if_pos rfl]
      rfl
    · have hlast : (UInt8.ofNat (n % 256)).toNat = n % 256 :=
        UInt8.toNat_ofNat_of_lt' (by simp only [UInt8.size]; omega)
      calc toNat (ofNat n) = toNat (ofNat (n / 256)) * 256 + n % 256 := by
            rw [ofNat_of_pos hn, toNat_append_singleton, hlast]
        _ = n / 256 * 256 + n % 256 := by rw [ih (n / 256) (by omega)]
        _ = n := Nat.div_add_mod' n 256

/-- The digits of a number do not start with a zero. -/
theorem head?_ofNat_ne_zero (n : Nat) : (ofNat n).head? ≠ some 0 := by
  induction n using Nat.strongRecOn with
  | _ n ih =>
    by_cases hn : n = 0
    · subst hn
      rw [ofNat, if_pos rfl]
      nofun
    · rw [ofNat_of_pos hn]
      by_cases hrest : n / 256 = 0
      · rw [hrest, ofNat, if_pos rfl]
        intro hzero
        have hbyte : UInt8.ofNat (n % 256) = 0 := Option.some.inj hzero
        have hlast := congrArg UInt8.toNat hbyte
        rw [UInt8.toNat_ofNat_of_lt' (by simp only [UInt8.size]; omega)] at hlast
        have hnat : n % 256 = 0 := hlast
        omega
      · have hhead := ih (n / 256) (by omega)
        cases hdigits : ofNat (n / 256) with
        | nil =>
          have hvalue := toNat_ofNat (n / 256)
          rw [hdigits] at hvalue
          exact absurd hvalue.symm hrest
        | cons b rest =>
          rw [hdigits] at hhead
          exact hhead

/-- A number has no more bytes than it needs. -/
theorem length_ofNat_le {n k : Nat} (h : n < 256 ^ k) : (ofNat n).length ≤ k := by
  induction k generalizing n with
  | zero =>
    obtain rfl : n = 0 := by simpa using h
    rw [ofNat, if_pos rfl]
    exact Nat.le_refl 0
  | succ k ih =>
    by_cases hn : n = 0
    · subst hn
      rw [ofNat, if_pos rfl]
      exact Nat.zero_le _
    · have hrest : n / 256 < 256 ^ k := by
        rw [Nat.div_lt_iff_lt_mul (by decide), ← Nat.pow_succ]
        exact h
      rw [ofNat_of_pos hn, List.length_append, List.length_singleton]
      exact Nat.succ_le_succ (ih hrest)

end Bytes

namespace Der

/-- The greatest length of an element. -/
def lengthBound : Nat := 0xfffffff

variable {tag : UInt8} {content rest : Bytes} {n : Nat}

/-- A length is read as it was written, with anything behind it. -/
theorem readLength?_encodeLength (h : n ≤ lengthBound) (rest : Bytes) :
    readLength? (encodeLength n ++ rest) = some (n, rest) := by
  unfold encodeLength
  split
  · rename_i hshort
    have hn : (UInt8.ofNat n).toNat = n :=
      UInt8.toNat_ofNat_of_lt' (by simp only [UInt8.size]; omega)
    have hlt : UInt8.ofNat n < 0x80 := by
      rw [UInt8.lt_iff_toNat_lt, hn]
      exact hshort
    rw [List.singleton_append, readLength?, if_pos hlt, hn]
  · rename_i hlong
    have hfour : (Bytes.ofNat n).length ≤ 4 :=
      Bytes.length_ofNat_le (by simp only [lengthBound] at h; omega)
    have hpos : 1 ≤ (Bytes.ofNat n).length := by
      refine List.length_pos_iff.mpr ?_
      intro hnil
      have hvalue := Bytes.toNat_ofNat n
      rw [hnil] at hvalue
      have hzero : 0 = n := hvalue
      omega
    have hfirst : (longLength (Bytes.ofNat n).length).toNat = 0x80 + (Bytes.ofNat n).length :=
      UInt8.toNat_ofNat_of_lt' (by simp only [UInt8.size]; omega)
    have hnot : ¬longLength (Bytes.ofNat n).length < 0x80 := by
      rw [UInt8.lt_iff_toNat_lt, hfirst]
      simp
    have hsize : (longLength (Bytes.ofNat n).length).toNat - 0x80 = (Bytes.ofNat n).length := by
      omega
    rw [List.cons_append, readLength?, if_neg hnot]
    simp only [hsize, List.take_left, List.drop_left, Bytes.toNat_ofNat]
    exact if_pos ⟨hpos, hfour, trivial, Bytes.head?_ofNat_ne_zero n, by omega, h⟩

/-- An element is read as it was written, with anything behind it. -/
theorem read?_encode (htag : isTag tag = true) (h : content.length ≤ lengthBound)
    (rest : Bytes) : read? (encode tag content ++ rest) = some (⟨tag, content⟩, rest) := by
  simp [encode, read?, htag, readLength?_encodeLength h]

theorem readTagged?_encode (htag : isTag tag = true) (h : content.length ≤ lengthBound)
    (rest : Bytes) : readTagged? tag (encode tag content ++ rest) = some (content, rest) := by
  simp [readTagged?, read?_encode htag h]

theorem readOnly?_encode (htag : isTag tag = true) (h : content.length ≤ lengthBound) :
    readOnly? tag (encode tag content) = some content := by
  have hread := read?_encode htag h []
  rw [List.append_nil] at hread
  simp [readOnly?, hread]

theorem length_le_encode (tag : UInt8) (content : Bytes) :
    content.length ≤ (encode tag content).length := by
  simp only [encode, List.length_cons, List.length_append]
  omega

/-- The content of the written form of a number. -/
theorem exists_encodeNat (n : Nat) :
    ∃ content, encodeNat n = encode integerTag content ∧ natOfContent? content = some n := by
  unfold encodeNat
  have hvalue := Bytes.toNat_ofNat n
  have hhead := Bytes.head?_ofNat_ne_zero n
  cases hdigits : Bytes.ofNat n with
  | nil =>
    rw [hdigits] at hvalue
    exact ⟨[0], rfl, congrArg some hvalue⟩
  | cons b digits =>
    rw [hdigits] at hvalue hhead
    refine ⟨_, rfl, ?_⟩
    split
    · rename_i hhigh
      have hlow : ¬b < 0x80 := UInt8.not_lt.mpr hhigh
      simp [natOfContent?, hlow, Bytes.toNat_zero_cons, hvalue]
    · rename_i hhigh
      have hlow : b < 0x80 := UInt8.not_le.mp hhigh
      cases digits with
      | nil =>
        have hbyte : b.toNat = n := by
          change 0 * 256 + b.toNat = n at hvalue
          omega
        simp [natOfContent?, hlow, hbyte]
      | cons c digits =>
        have hb : b ≠ 0 := by simpa using hhead
        simp [natOfContent?, hhigh, hb, hvalue]

/-- A number is read as it was written, with anything behind it. -/
theorem readNat?_encodeNat (h : (encodeNat n).length ≤ lengthBound) (rest : Bytes) :
    readNat? (encodeNat n ++ rest) = some (n, rest) := by
  obtain ⟨content, heq, hcontent⟩ := exists_encodeNat n
  rw [heq] at h ⊢
  have htag : isTag integerTag = true := by decide
  have hlength := Nat.le_trans (length_le_encode integerTag content) h
  simp [readNat?, readTagged?_encode htag hlength, hcontent]

theorem readNats?_encodeNat {ns : List Nat}
    (h : ((ns.map encodeNat).flatten).length ≤ lengthBound) :
    readNats? ns.length (ns.map encodeNat).flatten = some (ns, []) := by
  induction ns with
  | nil => rfl
  | cons n more ih =>
    rw [List.map_cons, List.flatten_cons, List.length_append] at h
    rw [List.map_cons, List.flatten_cons, List.length_cons, readNats?,
      readNat?_encodeNat (by omega)]
    simp [ih (by omega)]

end Der

namespace RsaKey

open Der (lengthBound)

variable {k : RsaKey} {der : Bytes}

theorem isValid_of_ofPkcs1? (h : ofPkcs1? der = some k) : k.isValid = true := by
  unfold ofPkcs1? at h
  obtain ⟨body, -, h⟩ := Option.bind_eq_some_iff.mp h
  obtain ⟨⟨numbers, rest⟩, -, h⟩ := Option.bind_eq_some_iff.mp h
  dsimp only at h
  split at h
  · split at h
    · rename_i hvalid
      cases h
      exact hvalid
    · cases h
  · cases h

theorem isValid_of_ofPkcs8? (h : ofPkcs8? der = some k) : k.isValid = true := by
  unfold ofPkcs8? at h
  obtain ⟨body, -, h⟩ := Option.bind_eq_some_iff.mp h
  obtain ⟨⟨version, rest⟩, -, h⟩ := Option.bind_eq_some_iff.mp h
  obtain ⟨⟨identifier, rest⟩, -, h⟩ := Option.bind_eq_some_iff.mp h
  obtain ⟨⟨key, rest⟩, -, h⟩ := Option.bind_eq_some_iff.mp h
  dsimp only at h
  split at h
  · exact isValid_of_ofPkcs1? h
  · cases h

/-- The coefficient is read, but nothing is made of it. -/
theorem ofPkcs1?_toPkcs1 (hvalid : k.isValid = true) {coefficient : Nat}
    (h : (k.toPkcs1 coefficient).length ≤ lengthBound) :
    ofPkcs1? (k.toPkcs1 coefficient) = some k := by
  unfold toPkcs1 Der.sequence at h
  have hbody := Nat.le_trans (Der.length_le_encode _ _) h
  have hnumbers := Der.readNats?_encodeNat hbody
  simp only [List.length_cons, List.length_nil] at hnumbers
  unfold toPkcs1 Der.sequence ofPkcs1?
  rw [Der.readOnly?_encode (by decide) hbody]
  simp only [Option.bind_eq_bind, Option.bind_some, hnumbers, hvalid, if_true]

/-- A key is read from its PKCS #8 form as what it is. -/
theorem ofPkcs8?_toPkcs8? (hvalid : k.isValid = true) (hder : k.toPkcs8? = some der)
    (h : der.length ≤ lengthBound) : ofPkcs8? der = some k := by
  obtain ⟨coefficient, -, rfl⟩ := Option.map_eq_some_iff.mp hder
  have hbody := Nat.le_trans (Der.length_le_encode _ _) h
  have hparts := hbody
  simp only [List.flatten_cons, List.flatten_nil, List.append_nil, List.length_append] at hparts
  have hkey : (k.toPkcs1 coefficient).length ≤ lengthBound :=
    Nat.le_trans (Der.length_le_encode Der.octetStringTag _) (by omega)
  have hversion := Der.readNat?_encodeNat (by omega : (Der.encodeNat 0).length ≤ lengthBound)
    (Der.encode Der.sequenceTag algorithm ++
      Der.encode Der.octetStringTag (k.toPkcs1 coefficient))
  have hidentifier := Der.readTagged?_encode (by decide : Der.isTag Der.sequenceTag = true)
    (by decide : algorithm.length ≤ lengthBound)
    (Der.encode Der.octetStringTag (k.toPkcs1 coefficient))
  have hoctets := Der.readTagged?_encode (by decide : Der.isTag Der.octetStringTag = true) hkey []
  rw [List.append_nil] at hoctets
  have htrailer : isTrailer 0 [] = true := by
    simp [isTrailer, skipAttributes?, Der.read?]
  unfold ofPkcs8? Der.sequence
  rw [Der.readOnly?_encode (by decide) hbody]
  simp only [List.flatten_cons, List.flatten_nil, List.append_nil, Option.bind_eq_bind,
    Option.bind_some, hversion, hidentifier, hoctets, htrailer]
  exact ofPkcs1?_toPkcs1 hvalid hkey

end RsaKey

namespace PrivateKey

variable {text : List Char} {pem : String} {key : RsaKey} {der : Bytes}

/-- A key of a text has passed the check of its numbers. -/
theorem isValid_of_read (h : read text = .ok key) : key.isValid = true := by
  unfold read at h
  split at h
  · split at h
    · rename_i hkey
      cases h
      obtain ⟨block, -, hblock⟩ := Option.bind_eq_some_iff.mp hkey
      exact RsaKey.isValid_of_ofPkcs1? hblock
    · cases h
  · split at h
    · split at h
      · rename_i hkey
        cases h
        obtain ⟨block, -, hblock⟩ := Option.bind_eq_some_iff.mp hkey
        exact RsaKey.isValid_of_ofPkcs8? hblock
      · cases h
    · cases h

/-- What is converted is the key of the text. -/
theorem exists_key_of_toPkcs8 (h : toPkcs8 pem = .ok der) :
    ∃ key, read pem.toList = .ok key ∧ key.toPkcs8? = some der ∧
      (der.length ≤ Der.lengthBound → RsaKey.ofPkcs8? der = some key) := by
  unfold toPkcs8 at h
  split at h
  · rename_i key hkey
    split at h
    · rename_i hder
      cases h
      exact ⟨key, hkey, hder, RsaKey.ofPkcs8?_toPkcs8? (isValid_of_read hkey) hder⟩
    · cases h
  · cases h

end PrivateKey

end SqlOperator
