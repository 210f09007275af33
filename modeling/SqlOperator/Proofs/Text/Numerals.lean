import SqlOperator.Text.Hex
import SqlOperator.Text.Split

/-!
# Numbers and their digits

A number that is written in decimal or hexadecimal digits is read back from them. All that
other syntax has to know of a numeral is that it is not empty and has digits only.
-/

namespace SqlOperator.Text

/-- The character is the digit of a number to the base `b`. -/
def IsDigitOf (b : Nat) (c : Char) : Prop := ∃ d < b, c = Nat.digitChar d

theorem IsDigitOf.elim {b : Nat} {c : Char} (h : IsDigitOf b c) (P : Char → Prop)
    (hP : ∀ d < b, P (Nat.digitChar d)) : P c := by
  obtain ⟨d, hd, rfl⟩ := h
  exact hP d hd

/-- A text of digits does not have a character that is no digit. -/
theorem notMem_of_isDigitOf {b : Nat} {cs : List Char} (h : ∀ c ∈ cs, IsDigitOf b c) {mark : Char}
    (hmark : ∀ d < b, Nat.digitChar d ≠ mark) : mark ∉ cs :=
  fun hm => (h mark hm).elim (· ≠ mark) hmark rfl

theorem isDigitOf_of_mem_toDigits {b n : Nat} {c : Char} (hb : 1 < b) (h : c ∈ Nat.toDigits b n) :
    IsDigitOf b c := by
  induction n using Nat.strongRecOn with
  | ind n ih =>
    by_cases hn : n < b
    · rw [Nat.toDigits_of_lt_base hn] at h
      exact ⟨n, hn, List.mem_singleton.mp h⟩
    · rw [Nat.toDigits_of_base_le hb (by omega)] at h
      rcases List.mem_append.mp h with h | h
      · exact ih (n / b) (Nat.div_lt_self (by omega) hb) h
      · exact ⟨n % b, Nat.mod_lt n (by omega), List.mem_singleton.mp h⟩

theorem decimal?_toDigits (n : Nat) : decimal? (Nat.toDigits 10 n) = some n := by
  have hdigits : (Nat.toDigits 10 n).all Char.isDigit = true :=
    List.all_eq_true.mpr fun _ => Nat.isDigit_of_mem_toDigits (by decide) (by decide)
  have hfold : (Nat.toDigits 10 n).foldl (fun n c => n * 10 + (c.toNat - '0'.toNat)) 0 = n := by
    have h := Nat.ofDigitChars_toDigits (b := 10) (n := n) (by decide) (by decide)
    simpa only [Nat.ofDigitChars, Nat.mul_comm] using h
  rw [decimal?, hdigits, hfold]
  simp [Nat.toDigits_ne_nil]

namespace Hex

theorem value?_digitChar : ∀ d < 16, value? (Nat.digitChar d) = some d := by decide

theorem value?_upper : ∀ d < 16, value? (upper d) = some d := by decide

theorem toNat?_append_singleton (digits : List Char) (c : Char) :
    toNat? (digits ++ [c]) = (toNat? digits).bind fun n => (value? c).map (n * 16 + ·) := by
  simp [toNat?, List.foldlM_append]

theorem toNat?_ofNat (n : Nat) : toNat? (ofNat n) = some n := by
  induction n using Nat.strongRecOn with
  | ind n ih =>
    unfold ofNat at ih ⊢
    by_cases hn : n < 16
    · rw [Nat.toDigits_of_lt_base hn]
      simp [toNat?, value?_digitChar n hn]
    · rw [Nat.toDigits_of_base_le (by decide) (by omega), toNat?_append_singleton,
        ih (n / 16) (by omega), Option.bind_some, value?_digitChar _ (by omega), Option.map_some]
      congr 1
      omega

end Hex

end SqlOperator.Text
