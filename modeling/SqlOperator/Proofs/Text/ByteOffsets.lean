import SqlOperator.Proofs.Text.ByteOrder
import SqlOperator.Proofs.Text.Marks

/-!
# Offsets of marks

A search among the bytes of a text finds a mark at an offset, and the text is cut there. UTF-8
makes this safe: no character has the bytes of another one in front, and the bytes inside of a
character start none. So the first place of a mark among the bytes is its first place among the
characters, and it is never inside a character.
-/

namespace SqlOperator.Text

/-- The offset of the first place where a mark stands among the bytes. -/
def offset? (mark : Bytes) : Bytes → Option Nat
  | [] => if mark = [] then some 0 else none
  | b :: rest =>
    if mark.isPrefixOf (b :: rest) then some 0 else (offset? mark rest).map (· + 1)

/-- Cuts a text at an offset in bytes, which must not be inside a character or behind the end. -/
def cutAt? : Nat → List Char → Option (List Char × List Char)
  | 0, cs => some ([], cs)
  | _ + 1, [] => none
  | n + 1, c :: rest =>
    if c.utf8Size ≤ n + 1 then
      (cutAt? (n + 1 - c.utf8Size) rest).map fun cut => (c :: cut.1, cut.2)
    else none

variable {mark xs ys : List Char} {c d : Char}

theorem utf8_append (xs ys : List Char) : utf8 (xs ++ ys) = utf8 xs ++ utf8 ys :=
  List.flatMap_append

theorem cutAt?_length_utf8 (before after : List Char) :
    cutAt? (utf8 before).length (before ++ after) = some (before, after) := by
  induction before with
  | nil => exact cutAt?.eq_1 after
  | cons c rest ih =>
    have hpos := length_utf8_pos c rest
    have hlength : (utf8 (c :: rest)).length = c.utf8Size + (utf8 rest).length := by
      rw [utf8_cons, List.length_append, String.length_utf8EncodeChar]
    obtain ⟨n, hn⟩ : ∃ n, (utf8 (c :: rest)).length = n + 1 := ⟨_, (Nat.sub_add_cancel hpos).symm⟩
    have hsize : c.utf8Size ≤ n + 1 := by omega
    have hrest : n + 1 - c.utf8Size = (utf8 rest).length := by omega
    rw [hn, List.cons_append, cutAt?, if_pos hsize, hrest, ih]
    rfl

/-! ### The bytes of a character -/

/-- A byte inside of a character. -/
def IsInner (b : UInt8) : Prop := 128 ≤ b.toNat ∧ b.toNat < 192

theorem isInner_ofNat (n : Nat) : IsInner (UInt8.ofNat (n % 64 + 128)) := by
  rw [IsInner, UInt8.toNat_ofNat_of_lt' (by simp only [UInt8.size]; omega)]
  omega

theorem not_isInner_ofNat {n : Nat} (hn : n < 256) (h : n < 128 ∨ 192 ≤ n) :
    ¬IsInner (UInt8.ofNat n) := by
  rw [IsInner, UInt8.toNat_ofNat_of_lt' hn]
  omega

/-- The bytes of a character are one that starts it and others that do not. -/
theorem utf8EncodeChar_eq_cons (c : Char) : ∃ first inner,
    String.utf8EncodeChar c = first :: inner ∧ ¬IsInner first ∧ ∀ b ∈ inner, IsInner b := by
  have hc : c.val.toNat < 0x110000 := by
    have hvalid := c.valid
    simp only [UInt32.isValidChar, Nat.isValidChar] at hvalid
    omega
  simp only [String.utf8EncodeChar]
  generalize c.val.toNat = n at hc
  split_ifs
  all_goals
    refine ⟨_, _, rfl, not_isInner_ofNat (by omega) (by omega), ?_⟩
    simp only [List.forall_mem_cons, isInner_ofNat, List.not_mem_nil, false_imp_iff, implies_true,
      and_self]

/-- Bytes start with those of one character only. -/
theorem utf8EncodeChar_append_inj {s t : Bytes}
    (h : String.utf8EncodeChar c ++ s = String.utf8EncodeChar d ++ t) : c = d ∧ s = t := by
  rcases lt_trichotomy c d with hlt | rfl | hgt
  · exact absurd (utf8EncodeChar_append_lt hlt s t) (h ▸ List.lt_irrefl _)
  · exact ⟨rfl, List.append_cancel_left h⟩
  · exact absurd (utf8EncodeChar_append_lt hgt t s) (h ▸ List.lt_irrefl _)

/-- The bytes of a text start with those of a mark exactly if the text starts with the mark. -/
theorem utf8_prefix_iff : utf8 xs <+: utf8 ys ↔ xs <+: ys := by
  constructor
  · intro h
    induction xs generalizing ys with
    | nil => exact List.nil_prefix
    | cons c rest ih =>
      obtain ⟨more, hmore⟩ := h
      rw [utf8_cons, List.append_assoc] at hmore
      cases ys with
      | nil => exact absurd (List.append_eq_nil_iff.mp hmore).1 String.utf8EncodeChar_ne_nil
      | cons d ys =>
        obtain ⟨rfl, hrest⟩ := utf8EncodeChar_append_inj hmore
        exact List.cons_prefix_cons.mpr ⟨rfl, ih ⟨more, hrest⟩⟩
  · rintro ⟨more, rfl⟩
    rw [utf8_append]
    exact List.prefix_append _ _

/-- A text does not start with a byte inside of a character. -/
theorem not_utf8_prefix_cons {b : UInt8} {bytes : Bytes} (hb : IsInner b) (hmark : mark ≠ []) :
    ¬utf8 mark <+: b :: bytes := by
  obtain ⟨c, rest, rfl⟩ := List.exists_cons_of_ne_nil hmark
  obtain ⟨first, inner, heq, hfirst, -⟩ := utf8EncodeChar_eq_cons c
  rw [utf8_cons, heq, List.cons_append, List.cons_prefix_cons]
  rintro ⟨rfl, -⟩
  exact hfirst hb

/-! ### The search -/

theorem offset?_of_starts {sought bytes : Bytes} (h : sought <+: bytes) :
    offset? sought bytes = some 0 := by
  cases bytes with
  | nil => exact if_pos (List.prefix_nil.mp h)
  | cons b rest => exact if_pos (List.isPrefixOf_iff_prefix.mpr h)

theorem offset?_cons_of_not_starts {b : UInt8} {sought rest : Bytes} (h : ¬sought <+: b :: rest) :
    offset? sought (b :: rest) = (offset? sought rest).map (· + 1) :=
  if_neg (mt List.isPrefixOf_iff_prefix.mp h)

/-- The bytes inside of a character are passed over. -/
theorem offset?_append_of_isInner {inner : Bytes} (hinner : ∀ b ∈ inner, IsInner b)
    (hmark : mark ≠ []) (rest : Bytes) :
    offset? (utf8 mark) (inner ++ rest) =
      (offset? (utf8 mark) rest).map (· + inner.length) := by
  induction inner with
  | nil => simp
  | cons b inner ih =>
    obtain ⟨hb, hinner⟩ := List.forall_mem_cons.mp hinner
    rw [List.cons_append, offset?_cons_of_not_starts (not_utf8_prefix_cons hb hmark), ih hinner,
      Option.map_map]
    rfl

/-- What is found among the bytes is what is found among the characters. -/
theorem offset?_utf8 (mark cs : List Char) :
    offset? (utf8 mark) (utf8 cs) = (cutFirst? mark cs).map fun cut => (utf8 cut.1).length := by
  induction cs with
  | nil =>
    cases mark with
    | nil => rfl
    | cons c rest =>
      rw [cutFirst?_nil, if_neg (List.cons_ne_nil c rest)]
      exact if_neg (List.ne_nil_of_length_pos (length_utf8_pos c rest))
  | cons c rest ih =>
    by_cases hstarts : mark <+: c :: rest
    · rw [offset?_of_starts (utf8_prefix_iff.mpr hstarts), cutFirst?_of_starts hstarts]
      rfl
    · have hmark : mark ≠ [] := fun hnil => hstarts (hnil ▸ List.nil_prefix)
      have hbytes := mt utf8_prefix_iff.mp hstarts
      obtain ⟨first, inner, heq, -, hinner⟩ := utf8EncodeChar_eq_cons c
      have hlength (cut : List Char) :
          (utf8 (c :: cut)).length = (utf8 cut).length + inner.length + 1 := by
        rw [utf8_cons, heq, List.length_append, List.length_cons]
        omega
      rw [cutFirst?_of_not_starts hstarts]
      rw [utf8_cons, heq, List.cons_append] at hbytes ⊢
      rw [offset?_cons_of_not_starts hbytes, offset?_append_of_isInner hinner hmark, ih]
      simp only [Option.map_map, Function.comp_def, hlength]

end SqlOperator.Text
