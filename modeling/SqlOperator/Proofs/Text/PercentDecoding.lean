import SqlOperator.Proofs.Text.Numerals
import SqlOperator.Text.Percent

/-!
# Reading percent-encoded texts

A reader of percent-encoded texts takes every `%` with two hexadecimal digits behind it for a
byte, and every other character for itself. Whatever set of characters is encoded, it finds what
it would find in the text that the encoder was given, as long as `%` and the digits are not in
the set. They are not in the sets for paths and user information, so that a text is read as
itself exactly if it has no escape of its own.

## Implementation notes

An escape is read as one byte, which is less than its characters have, and nothing is read as
more than its characters have. So the number of bytes tells whether there is an escape.
-/

namespace SqlOperator.Text

/-- The bytes of a text that is given by its characters. -/
def utf8 (cs : List Char) : Bytes := cs.flatMap String.utf8EncodeChar

@[simp] theorem utf8_nil : utf8 [] = [] := rfl

@[simp] theorem utf8_cons (c : Char) (cs : List Char) :
    utf8 (c :: cs) = String.utf8EncodeChar c ++ utf8 cs := rfl

theorem utf8_toList (text : String) : utf8 text.toList = Bytes.ofText text := by
  have h : text.toUTF8 = text.toList.utf8Encode := by
    conv => lhs; rw [← String.ofList_toList (s := text)]
    rfl
  rw [Bytes.ofText, h, List.utf8Encode]
  simp [utf8]

/-- Texts of the same bytes are equal. -/
theorem utf8_injective {xs ys : List Char} (h : utf8 xs = utf8 ys) : xs = ys := by
  have htext : Bytes.ofText (String.ofList xs) = Bytes.ofText (String.ofList ys) := by
    rw [← utf8_toList, ← utf8_toList, String.toList_ofList, String.toList_ofList, h]
  exact String.ofList_injective (Bytes.ofText_injective htext)

theorem length_utf8_pos (c : Char) (rest : List Char) : 0 < (utf8 (c :: rest)).length := by
  have hc : 0 < (String.utf8EncodeChar c).length :=
    List.length_pos_iff.mpr String.utf8EncodeChar_ne_nil
  rw [utf8_cons, List.length_append]
  omega

theorem length_utf8_filter_le (keep : Char → Bool) (cs : List Char) :
    (utf8 (cs.filter keep)).length ≤ (utf8 cs).length := by
  induction cs with
  | nil => exact Nat.le_refl _
  | cons c rest ih =>
    rw [utf8_cons, List.length_append]
    cases hc : keep c with
    | true =>
      rw [List.filter_cons_of_pos hc, utf8_cons, List.length_append]
      omega
    | false =>
      rw [List.filter_cons_of_neg (by simp [hc])]
      omega

/-- Characters that are left out of a text are missing in its bytes. -/
theorem filter_eq_self_of_length_utf8 {keep : Char → Bool} {cs : List Char}
    (h : (utf8 cs).length ≤ (utf8 (cs.filter keep)).length) : cs.filter keep = cs := by
  induction cs with
  | nil => rfl
  | cons c rest ih =>
    have hrest := length_utf8_filter_le keep rest
    have hc := length_utf8_pos c []
    rw [utf8_cons, utf8_nil, List.append_nil] at hc
    rw [utf8_cons, List.length_append] at h
    cases hk : keep c with
    | true =>
      rw [List.filter_cons_of_pos hk, utf8_cons, List.length_append] at h
      rw [List.filter_cons_of_pos hk, ih (by omega)]
    | false =>
      rw [List.filter_cons_of_neg (by simp [hk])] at h
      omega

/-- What holds of all characters of ASCII is proved one by one. -/
theorem forall_ascii {P : Char → Prop} (h : ∀ n < 128, P (Char.ofNat n)) {c : Char}
    (hc : c.toNat < 128) : P c := by
  have hchar := h c.toNat hc
  rwa [Char.ofNat_toNat] at hchar

namespace Percent

/-- The text starts with a hexadecimal digit. -/
def startsDigit (cs : List Char) : Bool := cs.head?.any fun c => (Hex.value? c).isSome

/-- The text starts with `%` and two digits. -/
def startsEscape : List Char → Bool
  | '%' :: rest => startsDigit rest && startsDigit rest.tail
  | _ => false

/-- There is a `%` with two digits behind it in the text. -/
def hasEscape : List Char → Bool
  | [] => false
  | c :: rest => startsEscape (c :: rest) || hasEscape rest

/-- The bytes that a percent-encoded text stands for. A `%` without two digits behind it stands
for itself. -/
def decode : List Char → Bytes
  | [] => []
  | '%' :: high :: low :: rest =>
    match Hex.value? high, Hex.value? low with
    | some h, some l => UInt8.ofNat (h * 16 + l) :: decode rest
    | _, _ => 0x25 :: decode (high :: low :: rest)
  | c :: rest => String.utf8EncodeChar c ++ decode rest

variable {escaped : Char → Bool} {c : Char} {cs rest : List Char}

@[simp] theorem startsDigit_nil : startsDigit [] = false := rfl

@[simp] theorem startsDigit_cons (c : Char) (rest : List Char) :
    startsDigit (c :: rest) = (Hex.value? c).isSome := rfl

theorem startsEscape_of_ne (h : c ≠ '%') (rest : List Char) :
    startsEscape (c :: rest) = false := by
  unfold startsEscape
  split
  · rename_i heq
    exact absurd (List.cons.inj heq).1 h
  · rfl

theorem startsEscape_eq_true (h : startsEscape cs = true) : ∃ high low rest h l,
    cs = '%' :: high :: low :: rest ∧ Hex.value? high = some h ∧ Hex.value? low = some l := by
  unfold startsEscape at h
  split at h
  · rename_i rest
    obtain ⟨hhigh, hlow⟩ := Bool.and_eq_true_iff.mp h
    match rest, hhigh, hlow with
    | high :: low :: rest, hhigh, hlow =>
      obtain ⟨h, hh⟩ := Option.isSome_iff_exists.mp hhigh
      obtain ⟨l, hl⟩ := Option.isSome_iff_exists.mp hlow
      exact ⟨high, low, rest, h, l, rfl, hh, hl⟩
  · cases h

theorem decode_escape {high low : Char} {h l : Nat} (hh : Hex.value? high = some h)
    (hl : Hex.value? low = some l) (rest : List Char) :
    decode ('%' :: high :: low :: rest) = UInt8.ofNat (h * 16 + l) :: decode rest := by
  simp [decode, hh, hl]

theorem decode_cons (h : startsEscape (c :: rest) = false) :
    decode (c :: rest) = String.utf8EncodeChar c ++ decode rest := by
  conv => lhs; unfold decode
  split
  · contradiction
  · rename_i high low more heq
    obtain ⟨rfl, rfl⟩ := List.cons.inj heq
    split
    · rename_i hh hl
      simp [startsEscape, hh, hl] at h
    · rfl
  · rename_i heq
    obtain ⟨rfl, rfl⟩ := List.cons.inj heq
    rfl

/-- A text is read from an escape to the next, or from a character to the next. -/
theorem decode_induction {motive : List Char → Prop} (cs : List Char) (nil : motive [])
    (escape : ∀ high low rest h l, Hex.value? high = some h → Hex.value? low = some l →
      motive rest → motive ('%' :: high :: low :: rest))
    (plain : ∀ c rest, startsEscape (c :: rest) = false → motive rest → motive (c :: rest)) :
    motive cs := by
  induction hn : cs.length using Nat.strongRecOn generalizing cs with
  | ind n ih =>
    subst hn
    cases cs with
    | nil => exact nil
    | cons c rest =>
      cases hs : startsEscape (c :: rest) with
      | false => exact plain c rest hs (ih _ (by simp) rest rfl)
      | true =>
        obtain ⟨high, low, more, h, l, heq, hh, hl⟩ := startsEscape_eq_true hs
        rw [heq] at ih ⊢
        have hshorter : more.length < ('%' :: high :: low :: more).length := by
          simp only [List.length_cons]
          omega
        exact escape high low more h l hh hl (ih _ hshorter more rfl)

/-! ### Reading what was encoded -/

/-- A set that `%` and the digits are not in, so that escapes are left alone by the encoder. -/
structure SparesEscapes (escaped : Char → Bool) : Prop where
  percent : escaped '%' = false
  digit : ∀ c, (Hex.value? c).isSome → escaped c = false

theorem toNat_lt_of_isSome_value? (h : (Hex.value? c).isSome) : c.toNat < 128 := by
  unfold Hex.value? at h
  split at h
  · rename_i hc
    exact Nat.lt_of_le_of_lt (UInt32.le_iff_toNat_le.mp hc.2) (by decide)
  split at h
  · rename_i hc
    exact Nat.lt_of_le_of_lt (UInt32.le_iff_toNat_le.mp hc.2) (by decide)
  split at h
  · rename_i hc
    exact Nat.lt_of_le_of_lt (UInt32.le_iff_toNat_le.mp hc.2) (by decide)
  · cases h

/-- Only the percent sign and the hexadecimal digits have to be looked at. -/
theorem sparesEscapes_of_ascii (hpercent : escaped '%' = false)
    (h : ∀ n < 128, (Hex.value? (Char.ofNat n)).isSome → escaped (Char.ofNat n) = false) :
    SparesEscapes escaped where
  percent := hpercent
  digit _ hc := forall_ascii (P := fun c => (Hex.value? c).isSome → escaped c = false) h
    (toNat_lt_of_isSome_value? hc) hc

theorem sparesEscapes_isUserinfoEscaped : SparesEscapes isUserinfoEscaped :=
  sparesEscapes_of_ascii (by decide) (by decide)

theorem sparesEscapes_isPathEscaped : SparesEscapes isPathEscaped :=
  sparesEscapes_of_ascii (by decide) (by decide)

theorem decode_encodeByte_append (b : UInt8) (rest : List Char) :
    decode (encodeByte b ++ rest) = b :: decode rest := by
  have hb : b.toNat < 256 := b.toNat_lt
  have hvalue : b.toNat / 16 * 16 + b.toNat % 16 = b.toNat := by omega
  have hescape := decode_escape (Hex.value?_upper (b.toNat / 16) (by omega))
    (Hex.value?_upper (b.toNat % 16) (by omega)) rest
  rw [hvalue, UInt8.ofNat_toNat] at hescape
  exact hescape

theorem decode_encodeChar_append (c : Char) (rest : List Char) :
    decode (encodeChar c ++ rest) = String.utf8EncodeChar c ++ decode rest := by
  unfold encodeChar
  induction String.utf8EncodeChar c with
  | nil => rfl
  | cons b bytes ih =>
    rw [List.flatMap_cons, List.append_assoc, decode_encodeByte_append, ih, List.cons_append]

/-- An encoded character starts with `%`, which is not a digit. -/
theorem startsDigit_encodeChar_append (c : Char) (rest : List Char) :
    startsDigit (encodeChar c ++ rest) = false := by
  obtain ⟨b, bytes, hbytes⟩ := List.exists_cons_of_ne_nil (String.utf8EncodeChar_ne_nil (c := c))
  rw [encodeChar, hbytes, List.flatMap_cons]
  rfl

theorem encode_cons_of_escaped (h : escaped c = true) (rest : List Char) :
    encode escaped (c :: rest) = encodeChar c ++ encode escaped rest := by
  rw [encode_cons, if_pos h]

theorem encode_cons_of_not_escaped (h : escaped c = false) (rest : List Char) :
    encode escaped (c :: rest) = c :: encode escaped rest := by
  simp [encode_cons, h]

namespace SparesEscapes

variable (h : SparesEscapes escaped)

include h

theorem startsDigit_encode (cs : List Char) :
    startsDigit (encode escaped cs) = startsDigit cs := by
  cases cs with
  | nil => rfl
  | cons c rest =>
    cases hc : escaped c with
    | true =>
      have hdigit : (Hex.value? c).isSome = false :=
        Bool.eq_false_iff.mpr fun hsome => Bool.eq_false_iff.mp (h.digit c hsome) hc
      rw [encode_cons_of_escaped hc, startsDigit_encodeChar_append, startsDigit_cons, hdigit]
    | false => rw [encode_cons_of_not_escaped hc, startsDigit_cons, startsDigit_cons]

theorem startsEscape_cons_encode (c : Char) (rest : List Char) :
    startsEscape (c :: encode escaped rest) = startsEscape (c :: rest) := by
  by_cases hc : c = '%'
  · subst hc
    simp only [startsEscape, h.startsDigit_encode]
    cases rest with
    | nil => rfl
    | cons first more =>
      cases hfirst : escaped first with
      | true =>
        have hdigit : startsDigit (first :: more) = false := by
          rw [← h.startsDigit_encode, encode_cons_of_escaped hfirst,
            startsDigit_encodeChar_append]
        rw [hdigit, Bool.false_and, Bool.false_and]
      | false =>
        rw [encode_cons_of_not_escaped hfirst, List.tail_cons, List.tail_cons,
          h.startsDigit_encode]
  · rw [startsEscape_of_ne hc, startsEscape_of_ne hc]

/-- What is read of an encoded text is what is read of the text itself. -/
theorem decode_encode (cs : List Char) : decode (encode escaped cs) = decode cs := by
  induction cs using decode_induction with
  | nil => rfl
  | escape high low rest a b ha hb ih =>
    have hhigh := h.digit high (by rw [ha]; rfl)
    have hlow := h.digit low (by rw [hb]; rfl)
    rw [encode_cons_of_not_escaped h.percent, encode_cons_of_not_escaped hhigh,
      encode_cons_of_not_escaped hlow, decode_escape ha hb, decode_escape ha hb, ih]
  | plain c rest hc ih =>
    rw [decode_cons hc]
    cases hescaped : escaped c with
    | true => rw [encode_cons_of_escaped hescaped, decode_encodeChar_append, ih]
    | false =>
      have hstarts := (h.startsEscape_cons_encode c rest).trans hc
      rw [encode_cons_of_not_escaped hescaped, decode_cons hstarts, ih]

end SparesEscapes

/-! ### Texts without escapes -/

theorem length_decode_le (cs : List Char) : (decode cs).length ≤ (utf8 cs).length := by
  induction cs using decode_induction with
  | nil => exact Nat.le_refl _
  | escape high low rest a b ha hb ih =>
    rw [decode_escape ha hb]
    simp only [List.length_cons, utf8_cons, List.length_append]
    have hpercent : 0 < (String.utf8EncodeChar '%').length := by decide
    omega
  | plain c rest hc ih =>
    rw [decode_cons hc, utf8_cons, List.length_append, List.length_append]
    omega

/-- Without escapes, decoding gives the bytes of the text. -/
theorem decode_eq_utf8 (h : hasEscape cs = false) : decode cs = utf8 cs := by
  induction cs with
  | nil => rfl
  | cons c rest ih =>
    obtain ⟨hstarts, hrest⟩ := Bool.or_eq_false_iff.mp h
    rw [decode_cons hstarts, ih hrest, utf8_cons]

/-- An escape makes what is decoded shorter than the text. -/
theorem length_decode_lt (h : hasEscape cs = true) :
    (decode cs).length < (utf8 cs).length := by
  induction cs with
  | nil => cases h
  | cons c rest ih =>
    cases hstarts : startsEscape (c :: rest) with
    | true =>
      obtain ⟨high, low, more, a, b, heq, ha, hb⟩ := startsEscape_eq_true hstarts
      have hmore := length_decode_le more
      have hpercent : 0 < (String.utf8EncodeChar '%').length := by decide
      have hlow : 0 < (String.utf8EncodeChar low).length :=
        List.length_pos_iff.mpr String.utf8EncodeChar_ne_nil
      rw [heq, decode_escape ha hb]
      simp only [List.length_cons, utf8_cons, List.length_append]
      omega
    | false =>
      have hrest := ih ((Bool.or_eq_true_iff.mp h).resolve_left (by simp [hstarts]))
      rw [decode_cons hstarts, utf8_cons, List.length_append, List.length_append]
      omega

/-- A text is read as itself exactly if it has no escape. -/
theorem decode_eq_utf8_iff : decode cs = utf8 cs ↔ hasEscape cs = false := by
  refine ⟨fun h => Bool.eq_false_iff.mpr fun hescape => ?_, decode_eq_utf8⟩
  exact Nat.ne_of_lt (length_decode_lt hescape) (congrArg List.length h)

theorem startsEscape_append (h : startsEscape cs = true) (rest : List Char) :
    startsEscape (cs ++ rest) = true := by
  obtain ⟨high, low, more, a, b, rfl, ha, hb⟩ := startsEscape_eq_true h
  simp [startsEscape, ha, hb]

/-- An escape in a part of a text is an escape in the text. -/
theorem hasEscape_of_infix {part : List Char} (h : part <:+: cs) (hpart : hasEscape part = true) :
    hasEscape cs = true := by
  obtain ⟨before, after, rfl⟩ := h
  have hafter : ∀ part, hasEscape part = true → hasEscape (part ++ after) = true := by
    intro part hp
    induction part with
    | nil => cases hp
    | cons c rest ih =>
      refine Bool.or_eq_true_iff.mpr ((Bool.or_eq_true_iff.mp hp).imp (fun hs => ?_) ih)
      exact startsEscape_append hs after
  rw [List.append_assoc]
  induction before with
  | nil => exact hafter part hpart
  | cons c rest ih => exact Bool.or_eq_true_iff.mpr (.inr ih)

/-! ### Texts with a mark between them -/

theorem startsDigit_append_cons {mark : Char} (hmark : Hex.value? mark = none)
    (xs ys : List Char) : startsDigit (xs ++ mark :: ys) = startsDigit xs := by
  cases xs with
  | nil => simp [hmark]
  | cons => rfl

theorem startsEscape_append_cons {mark : Char} (hmark : Hex.value? mark = none)
    (c : Char) (xs ys : List Char) :
    startsEscape (c :: xs ++ mark :: ys) = startsEscape (c :: xs) := by
  by_cases hc : c = '%'
  · subst hc
    cases xs with
    | nil => simp [startsEscape, hmark]
    | cons x xs =>
      simp only [startsEscape, List.cons_append, List.tail_cons, startsDigit_cons,
        startsDigit_append_cons hmark]
  · rw [List.cons_append, startsEscape_of_ne hc, startsEscape_of_ne hc]

/-- A mark that is not a digit ends an escape that is not complete. -/
theorem decode_append_cons {mark : Char} (hmark : Hex.value? mark = none) (xs ys : List Char) :
    decode (xs ++ mark :: ys) = decode xs ++ decode (mark :: ys) := by
  induction xs using decode_induction with
  | nil => rfl
  | escape high low rest a b ha hb ih =>
    rw [List.cons_append, List.cons_append, List.cons_append, decode_escape ha hb,
      decode_escape ha hb, ih, List.cons_append]
  | plain c rest hc ih =>
    have hstarts := (startsEscape_append_cons hmark c rest ys).trans hc
    rw [List.cons_append] at hstarts ⊢
    rw [decode_cons hstarts, decode_cons hc, ih, List.append_assoc]

end Percent

end SqlOperator.Text
