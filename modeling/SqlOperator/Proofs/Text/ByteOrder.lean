import Mathlib.Data.String.Basic
import SqlOperator.Proofs.Text.PercentDecoding

/-!
# The order of texts

Texts are ordered character by character, and they are ordered byte by byte: it is the same
order, for UTF-8 gives a greater character greater bytes. A mark that is put behind two texts
keeps their order, unless one of them is the other one continued by something that is not
greater than the mark.
-/

namespace SqlOperator.Text

section Bytes

variable {m n : Nat} {xs ys : Bytes}

theorem ofNat_cons_lt (hn : n < 256) (h : m < n ∨ m = n ∧ xs < ys) :
    UInt8.ofNat m :: xs < UInt8.ofNat n :: ys := by
  rw [List.cons_lt_cons_iff]
  rcases h with hlt | ⟨rfl, htail⟩
  · refine .inl (UInt8.lt_iff_toNat_lt.mpr ?_)
    rw [UInt8.toNat_ofNat_of_lt' (hlt.trans hn), UInt8.toNat_ofNat_of_lt' hn]
    exact hlt
  · exact .inr ⟨rfl, htail⟩

/-! The last byte, the last two and the last three decide if what is in front of them is the
same. -/

theorem last_lt (h : m < n) (heq : m / 64 = n / 64) :
    UInt8.ofNat (m % 64 + 128) :: xs < UInt8.ofNat (n % 64 + 128) :: ys :=
  ofNat_cons_lt (by omega) (.inl (by omega))

theorem last_two_lt (h : m < n) (heq : m / 4096 = n / 4096) :
    UInt8.ofNat (m / 64 % 64 + 128) :: UInt8.ofNat (m % 64 + 128) :: xs <
      UInt8.ofNat (n / 64 % 64 + 128) :: UInt8.ofNat (n % 64 + 128) :: ys := by
  refine ofNat_cons_lt (by omega) ?_
  by_cases hnext : m / 64 = n / 64
  · exact .inr ⟨by omega, last_lt h hnext⟩
  · exact .inl (by omega)

theorem last_three_lt (h : m < n) (heq : m / 262144 = n / 262144) :
    UInt8.ofNat (m / 4096 % 64 + 128) :: UInt8.ofNat (m / 64 % 64 + 128) ::
        UInt8.ofNat (m % 64 + 128) :: xs <
      UInt8.ofNat (n / 4096 % 64 + 128) :: UInt8.ofNat (n / 64 % 64 + 128) ::
        UInt8.ofNat (n % 64 + 128) :: ys := by
  refine ofNat_cons_lt (by omega) ?_
  by_cases hnext : m / 4096 = n / 4096
  · exact .inr ⟨by omega, last_two_lt h hnext⟩
  · exact .inl (by omega)

/-- The bytes of a character decide before they end. -/
theorem utf8EncodeChar_append_lt {c d : Char} (h : c < d) (xs ys : Bytes) :
    String.utf8EncodeChar c ++ xs < String.utf8EncodeChar d ++ ys := by
  have hlt : c.val.toNat < d.val.toNat := h
  have hd : d.val.toNat < 0x110000 := by
    have hvalid := d.valid
    simp only [UInt32.isValidChar, Nat.isValidChar] at hvalid
    omega
  simp only [String.utf8EncodeChar]
  generalize c.val.toNat = m at *
  generalize d.val.toNat = n at *
  split_ifs
  -- Where the lengths differ, the first byte decides.
  any_goals (refine ofNat_cons_lt ?_ (.inl ?_) <;> omega)
  · refine ofNat_cons_lt (by omega) ?_
    by_cases heq : m / 64 = n / 64
    · exact .inr ⟨by omega, last_lt hlt heq⟩
    · exact .inl (by omega)
  · refine ofNat_cons_lt (by omega) ?_
    by_cases heq : m / 4096 = n / 4096
    · exact .inr ⟨by omega, last_two_lt hlt heq⟩
    · exact .inl (by omega)
  · refine ofNat_cons_lt (by omega) ?_
    by_cases heq : m / 262144 = n / 262144
    · exact .inr ⟨by omega, last_three_lt hlt heq⟩
    · exact .inl (by omega)

end Bytes

/-- The order of the bytes is the order of the characters. -/
theorem utf8_lt_utf8_iff {xs ys : List Char} : utf8 xs < utf8 ys ↔ xs < ys := by
  have hmono : ∀ {xs ys : List Char}, xs < ys → utf8 xs < utf8 ys := by
    intro xs ys h
    induction h with
    | @nil c rest =>
      obtain ⟨b, bytes, hb⟩ := List.exists_cons_of_length_pos (length_utf8_pos c rest)
      rw [hb]
      exact List.nil_lt_cons b bytes
    | rel h => exact utf8EncodeChar_append_lt h _ _
    | cons _ ih => exact List.append_left_lt ih
  refine ⟨fun h => ?_, hmono⟩
  rcases lt_trichotomy xs ys with hlt | rfl | hgt
  · exact hlt
  · exact absurd h (List.lt_irrefl _)
  · exact absurd (hmono hgt) (List.lt_asymm h)

/-- Texts are ordered as their bytes are. -/
theorem ofText_le_ofText_iff {a b : String} : Bytes.ofText a ≤ Bytes.ofText b ↔ a ≤ b := by
  rw [← utf8_toList, ← utf8_toList]
  exact not_congr utf8_lt_utf8_iff

theorem isLE_compare_iff {a b : String} : (compare a b).isLE = true ↔ a ≤ b := by
  change (compareOfLessAndEq a b).isLE = true ↔ a ≤ b
  unfold compareOfLessAndEq
  split_ifs with hlt heq
  · exact iff_of_true rfl hlt.le
  · exact iff_of_true rfl heq.le
  · exact iff_of_false Bool.false_ne_true fun hle => heq (hle.eq_of_not_lt hlt)

/-- A mark behind two texts keeps their order if the first is not continued in the second by
something that is not greater. -/
theorem append_mark_le {mark : Char} {tail xs ys : List Char} (h : xs ≤ ys)
    (hmark : ∀ c rest, ys = xs ++ c :: rest → mark < c) :
    xs ++ mark :: tail ≤ ys ++ mark :: tail := by
  rcases h.eq_or_lt with rfl | hlt
  · exact le_rfl
  · refine le_of_lt ?_
    clear h
    induction hlt with
    | @nil c rest => exact .rel (hmark c rest rfl)
    | rel hlt => exact .rel hlt
    | cons _ ih =>
      exact .cons (ih fun c rest heq => hmark c rest (congrArg _ heq))

end SqlOperator.Text
