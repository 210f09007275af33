import Mathlib.Data.List.TakeWhile
import SqlOperator.Text.Split

/-!
# Cutting what was put together

A text that is put together from parts with marks between them is cut into these parts
again, as long as no part has a mark of its own.
-/

namespace SqlOperator.Text

variable {sep : Char} {xs ys : List Char}

theorem fields_of_notMem (h : sep ∉ xs) : fields sep xs = [xs] := by
  induction xs with
  | nil => rfl
  | cons c rest ih =>
    obtain ⟨hc, hrest⟩ := not_or.mp (mt List.mem_cons.mpr h)
    simp [fields, Ne.symm hc, ih hrest]

/-- The fields on either side of a separator are those of the two sides. -/
theorem fields_append_sep (sep : Char) (xs ys : List Char) :
    fields sep (xs ++ sep :: ys) = fields sep xs ++ fields sep ys := by
  induction xs with
  | nil => simp [fields]
  | cons c rest ih =>
    simp only [List.cons_append, fields, ih]
    split
    · rfl
    · cases hrest : fields sep rest with
      | nil => exact absurd hrest (fields_ne_nil sep rest)
      | cons field more => rfl

theorem fields_append_cons (h : sep ∉ xs) (ys : List Char) :
    fields sep (xs ++ sep :: ys) = xs :: fields sep ys := by
  rw [fields_append_sep, fields_of_notMem h, List.singleton_append]

theorem flatMap_fields (sep : Char) (cs : List Char) :
    (fields sep cs).flatMap (sep :: ·) = sep :: cs := by
  induction cs with
  | nil => rfl
  | cons c rest ih =>
    unfold fields
    split
    · rename_i hc
      rw [List.flatMap_cons, ih, hc]
      rfl
    · split
      · rename_i hnil
        exact absurd hnil (fields_ne_nil sep rest)
      · rename_i field more hfields
        rw [hfields, List.flatMap_cons, List.cons_append] at ih
        rw [List.flatMap_cons, List.cons_append, List.cons_append, (List.cons.inj ih).2]

/-- A character of a text is a separator, or it is in one of the fields. -/
theorem mem_fields (sep : Char) {c : Char} {cs : List Char} (h : c ∈ cs) :
    c = sep ∨ ∃ field ∈ fields sep cs, c ∈ field := by
  have hmem : c ∈ (fields sep cs).flatMap (sep :: ·) :=
    flatMap_fields sep cs ▸ List.mem_cons_of_mem _ h
  obtain ⟨field, hfield, hc⟩ := List.mem_flatMap.mp hmem
  exact (List.mem_cons.mp hc).imp_right fun hc => ⟨field, hfield, hc⟩

theorem join_cons_cons (sep part next : List Char) (more : List (List Char)) :
    join sep (part :: next :: more) = part ++ sep ++ join sep (next :: more) := by
  simp [join]

/-- Parts without the separator are told apart again. -/
theorem fields_join {parts : List (List Char)} (hne : parts ≠ []) (h : ∀ p ∈ parts, sep ∉ p) :
    fields sep (join [sep] parts) = parts := by
  induction parts with
  | nil => exact absurd rfl hne
  | cons part more ih =>
    obtain ⟨hpart, hmore⟩ := List.forall_mem_cons.mp h
    cases more with
    | nil => simp [join, fields_of_notMem hpart]
    | cons next more =>
      rw [join_cons_cons, List.append_assoc, List.singleton_append, fields_append_cons hpart,
        ih (List.cons_ne_nil _ _) hmore]

theorem mem_join {sep : List Char} {parts : List (List Char)} {c : Char}
    (h : c ∈ join sep parts) : c ∈ sep ∨ ∃ p ∈ parts, c ∈ p := by
  induction parts with
  | nil => cases h
  | cons part more ih =>
    cases more with
    | nil => exact .inr ⟨part, List.mem_cons_self, by simpa [join] using h⟩
    | cons next more =>
      rw [join_cons_cons, List.append_assoc] at h
      rcases List.mem_append.mp h with h | h
      · exact .inr ⟨part, List.mem_cons_self, h⟩
      rcases List.mem_append.mp h with h | h
      · exact .inl h
      · refine (ih h).imp_right fun ⟨p, hp, hc⟩ => ⟨p, List.mem_cons_of_mem _ hp, hc⟩

/-! ### The first and the last mark -/

theorem cutFirst?_of_notMem (h : sep ∉ xs) : cutFirst? [sep] xs = none := by
  induction xs with
  | nil => rfl
  | cons c rest ih =>
    obtain ⟨hc, hrest⟩ := not_or.mp (mt List.mem_cons.mpr h)
    simp [cutFirst?, hc, ih hrest]

theorem cutFirst?_append_cons (h : sep ∉ xs) (ys : List Char) :
    cutFirst? [sep] (xs ++ sep :: ys) = some (xs, ys) := by
  induction xs with
  | nil => simp [cutFirst?]
  | cons c rest ih =>
    obtain ⟨hc, hrest⟩ := not_or.mp (mt List.mem_cons.mpr h)
    simp [cutFirst?, hc, ih hrest]

/-- What is cut at the first mark is put together from both sides. -/
theorem eq_append_of_cutFirst? {mark cs before after : List Char}
    (h : cutFirst? mark cs = some (before, after)) : cs = before ++ mark ++ after := by
  induction cs generalizing before with
  | nil =>
    unfold cutFirst? at h
    split at h
    · rename_i hmark
      cases h
      simp [hmark]
    · cases h
  | cons c rest ih =>
    unfold cutFirst? at h
    split at h
    · rename_i hstarts
      obtain ⟨rfl, rfl⟩ := Prod.mk.inj (Option.some.inj h)
      obtain ⟨more, hmore⟩ := List.isPrefixOf_iff_prefix.mp hstarts
      rw [← hmore, List.drop_left, List.nil_append]
    · obtain ⟨⟨start, more⟩, hcut, heq⟩ := Option.map_eq_some_iff.mp h
      obtain ⟨rfl, rfl⟩ := Prod.mk.inj heq
      rw [ih hcut, List.cons_append, List.cons_append]

theorem takeWhile_bne_append_cons (h : sep ∉ xs) (ys : List Char) :
    (xs ++ sep :: ys).takeWhile (· != sep) = xs ∧
      (xs ++ sep :: ys).dropWhile (· != sep) = sep :: ys := by
  have hxs : ∀ c ∈ xs, (c != sep) = true := fun c hc => by
    simpa using fun he : c = sep => h (he ▸ hc)
  constructor
  · rw [List.takeWhile_append_of_pos hxs]
    simp
  · rw [List.dropWhile_append_of_pos hxs]
    simp

/-- The cut is at a separator that none follows. -/
theorem cutLast?_append_cons (h : sep ∉ ys) (xs : List Char) :
    cutLast? sep (xs ++ sep :: ys) = some (xs, ys) := by
  obtain ⟨htake, hdrop⟩ := takeWhile_bne_append_cons (mt List.mem_reverse.mp h) xs.reverse
  have hrev : (xs ++ sep :: ys).reverse = ys.reverse ++ sep :: xs.reverse := by simp
  simp [cutLast?, hrev, htake, hdrop]

theorem cutLast?_of_notMem (h : sep ∉ xs) : cutLast? sep xs = none := by
  have hdrop : xs.reverse.dropWhile (· != sep) = [] :=
    List.dropWhile_eq_nil_iff.mpr fun c hc => by
      simpa using fun he : c = sep => h (he ▸ List.mem_reverse.mp hc)
  simp [cutLast?, hdrop]

/-- What is cut at the last mark is put together from both sides. -/
theorem eq_append_of_cutLast? {cs before after : List Char}
    (h : cutLast? sep cs = some (before, after)) : cs = before ++ sep :: after := by
  unfold cutLast? at h
  dsimp only at h
  have hspan := List.takeWhile_append_dropWhile (p := (· != sep)) (l := cs.reverse)
  cases hdrop : cs.reverse.dropWhile (· != sep) with
  | nil =>
    rw [hdrop] at h
    cases h
  | cons c rest =>
    rw [hdrop] at h hspan
    obtain ⟨rfl, rfl⟩ := Prod.mk.inj (Option.some.inj h)
    have hc : c = sep := by
      have hhead := List.head?_dropWhile_not (· != sep) cs.reverse
      simpa [hdrop] using hhead
    subst hc
    have hreverse := congrArg List.reverse hspan
    simpa using hreverse.symm

/-! ### Two colons in a row -/

/-- A part without colons is skipped, for the mark starts with one. -/
theorem cutFirst?_append_of_notMem (h : ':' ∉ xs) (rest : List Char) :
    cutFirst? [':', ':'] (xs ++ rest) =
      (cutFirst? [':', ':'] rest).map fun cut => (xs ++ cut.1, cut.2) := by
  induction xs with
  | nil => simp
  | cons c more ih =>
    obtain ⟨hc, hmore⟩ := not_or.mp (mt List.mem_cons.mpr h)
    simp [cutFirst?, hc, ih hmore, Function.comp_def]

/-- One colon is skipped, too. -/
theorem cutFirst?_colon_cons {c : Char} (h : ':' ≠ c) (rest : List Char) :
    cutFirst? [':', ':'] (':' :: c :: rest) =
      (cutFirst? [':', ':'] (c :: rest)).map fun cut => (':' :: cut.1, cut.2) := by
  simp [cutFirst?, h]

/-- Parts with one colon between them have no two colons in a row. -/
theorem cutFirst?_join_append {parts : List (List Char)}
    (h : ∀ p ∈ parts, p ≠ [] ∧ ':' ∉ p) (rest : List Char) :
    cutFirst? [':', ':'] (join [':'] parts ++ rest) =
      (cutFirst? [':', ':'] rest).map fun cut => (join [':'] parts ++ cut.1, cut.2) := by
  induction parts with
  | nil => simp [join]
  | cons part more ih =>
    obtain ⟨⟨-, hpart⟩, hmore⟩ := List.forall_mem_cons.mp h
    cases more with
    | nil => simpa [join] using cutFirst?_append_of_notMem hpart rest
    | cons next more =>
      obtain ⟨⟨hne, hnext⟩, -⟩ := List.forall_mem_cons.mp hmore
      obtain ⟨c, next, rfl⟩ := List.exists_cons_of_ne_nil hne
      have hc : ':' ≠ c := fun he => hnext (he ▸ List.mem_cons_self)
      obtain ⟨tail, htail⟩ : ∃ tail, join [':'] ((c :: next) :: more) ++ rest = c :: tail := by
        cases more with
        | nil => exact ⟨_, rfl⟩
        | cons other more => exact ⟨_, rfl⟩
      rw [join_cons_cons, List.append_assoc, List.append_assoc, cutFirst?_append_of_notMem hpart,
        List.singleton_append, htail, cutFirst?_colon_cons hc, ← htail, ih hmore]
      simp [Function.comp_def]

end SqlOperator.Text
