/-!
# Maps with entries in key order

A finite map is the list of its entries in strictly ascending key order. Two
maps with the same look-ups are therefore equal, and a listing of the entries
needs no sorting.

## Implementation notes

The order is the `compare` of the key type, so one definition serves labels,
annotations and secret data (ordered by their text) and stored objects (ordered
by namespace and name).
-/

namespace SqlOperator

open Std

/-- A finite map from `κ` to `α` whose entries ascend strictly by key. -/
structure SortedMap (κ α : Type) [Ord κ] where
  /-- The entries in ascending key order. -/
  entries : List (κ × α)
  sorted : entries.Pairwise fun a b => compare a.1 b.1 = .lt

namespace SortedMap

variable {κ α : Type} [Ord κ]

instance [DecidableEq κ] [DecidableEq α] : DecidableEq (SortedMap κ α) := fun a b =>
  if h : a.entries = b.entries then
    isTrue (by cases a; cases b; simp_all)
  else
    isFalse fun e => h (e ▸ rfl)

/-- The map without entries. -/
def empty : SortedMap κ α := ⟨[], .nil⟩

instance : Inhabited (SortedMap κ α) := ⟨empty⟩

instance : EmptyCollection (SortedMap κ α) := ⟨empty⟩

def isEmpty (m : SortedMap κ α) : Bool := m.entries.isEmpty

def size (m : SortedMap κ α) : Nat := m.entries.length

/-- The keys in ascending order. -/
def keys (m : SortedMap κ α) : List κ := m.entries.map (·.1)

/-- The values in the order of their keys. -/
def values (m : SortedMap κ α) : List α := m.entries.map (·.2)

/-- The value of the first entry under `key`. -/
def lookup (key : κ) : List (κ × α) → Option α
  | [] => none
  | e :: rest => if compare key e.1 = .eq then some e.2 else lookup key rest

/-- The value under `key`. -/
def get? (m : SortedMap κ α) (key : κ) : Option α := lookup key m.entries

/-- Whether there is an entry under `key`. -/
def contains (m : SortedMap κ α) (key : κ) : Bool := (m.get? key).isSome

/-- Put an entry at its place in an ordered list, over one of the same key. -/
def place (key : κ) (value : α) : List (κ × α) → List (κ × α)
  | [] => [(key, value)]
  | e :: rest =>
    match compare key e.1 with
    | .lt => (key, value) :: e :: rest
    | .eq => (key, value) :: rest
    | .gt => e :: place key value rest

/-- Take the entry under `key` away. -/
def erase (m : SortedMap κ α) (key : κ) : SortedMap κ α :=
  ⟨m.entries.filter fun e => compare key e.1 != .eq, m.sorted.filter _⟩

theorem mem_place {key : κ} {value : α} {es : List (κ × α)} {x : κ × α}
    (h : x ∈ place key value es) : x = (key, value) ∨ x ∈ es := by
  induction es with
  | nil => simpa [place] using h
  | cons e rest ih =>
    unfold place at h
    split at h
    · simpa using h
    · simp only [List.mem_cons] at h ⊢
      exact h.imp_right .inr
    · simp only [List.mem_cons] at h ⊢
      rcases h with h | h
      · exact .inr (.inl h)
      · exact (ih h).imp_right .inr

theorem lookup_filter_self (key : κ) (es : List (κ × α)) :
    lookup key (es.filter fun e => compare key e.1 != .eq) = none := by
  induction es with
  | nil => rfl
  | cons e rest ih =>
    by_cases hk : compare key e.1 = .eq <;> simp [lookup, hk, ih]

@[simp] theorem get?_erase_self (m : SortedMap κ α) (key : κ) :
    (m.erase key).get? key = none :=
  lookup_filter_self ..

theorem lookup_eq_none {key : κ} {es : List (κ × α)}
    (h : ∀ e ∈ es, compare key e.1 = .lt) : lookup key es = none := by
  induction es with
  | nil => rfl
  | cons e rest ih =>
    simp only [List.mem_cons, forall_eq_or_imp] at h
    simp [lookup, h.1, ih h.2]

/-! ### Keys that compare equal are equal -/

section LawfulEq

variable [LawfulEqOrd κ]

theorem lookup_place_self (key : κ) (value : α) (es : List (κ × α)) :
    lookup key (place key value es) = some value := by
  induction es with
  | nil => simp [place, lookup]
  | cons e rest ih =>
    unfold place
    split
    · simp [lookup]
    · simp [lookup]
    · rename_i hgt
      simp [lookup, hgt, ih]

/-- Putting an entry does not change what is under other keys. -/
theorem lookup_place_of_ne {key other : κ} (value : α) (es : List (κ × α))
    (h : other ≠ key) : lookup other (place key value es) = lookup other es := by
  have hne : compare other key ≠ .eq := fun e => h (LawfulEqCmp.eq_of_compare e)
  induction es with
  | nil => simp [place, lookup, hne]
  | cons e rest ih =>
    unfold place
    split
    · simp [lookup, hne]
    · rename_i heq
      have hk : key = e.1 := LawfulEqCmp.eq_of_compare heq
      simp [lookup, hne, ← hk]
    · simp [lookup, ih]

theorem lookup_filter_of_ne {key other : κ} (es : List (κ × α)) (h : other ≠ key) :
    lookup other (es.filter fun e => compare key e.1 != .eq) = lookup other es := by
  induction es with
  | nil => rfl
  | cons e rest ih =>
    by_cases hk : compare key e.1 = .eq
    · have hne : compare other e.1 ≠ .eq := fun ho =>
        h ((LawfulEqCmp.eq_of_compare ho).trans (LawfulEqCmp.eq_of_compare hk).symm)
      simp [lookup, hk, ih, hne]
    · simp [lookup, hk, ih]

theorem get?_erase_of_ne (m : SortedMap κ α) {key other : κ} (h : other ≠ key) :
    (m.erase key).get? other = m.get? other :=
  lookup_filter_of_ne _ h

theorem mem_of_lookup {key : κ} {value : α} {es : List (κ × α)}
    (h : lookup key es = some value) : (key, value) ∈ es := by
  induction es with
  | nil => cases h
  | cons e rest ih =>
    unfold lookup at h
    split at h
    · rename_i he
      have hk : key = e.1 := LawfulEqCmp.eq_of_compare he
      rw [hk, ← Option.some.inj h]
      exact List.mem_cons_self
    · exact List.mem_cons_of_mem _ (ih h)

theorem mem_entries_of_get? {m : SortedMap κ α} {key : κ} {value : α}
    (h : m.get? key = some value) : (key, value) ∈ m.entries :=
  mem_of_lookup h

theorem perm_place {key : κ} {value : α} {es : List (κ × α)} (h : ∀ e ∈ es, key ≠ e.1) :
    (place key value es).Perm ((key, value) :: es) := by
  induction es with
  | nil => exact .refl _
  | cons e rest ih =>
    unfold place
    split
    · exact .refl _
    · rename_i heq
      exact absurd (LawfulEqCmp.eq_of_compare heq) (h e List.mem_cons_self)
    · exact ((ih fun f hf => h f (List.mem_cons_of_mem _ hf)).cons e).trans (.swap ..)

end LawfulEq

/-! ### Keys in a linear order -/

section Lawful

variable [TransOrd κ] [LawfulEqOrd κ]

theorem place_sorted {key : κ} {value : α} {es : List (κ × α)}
    (h : es.Pairwise fun a b => compare a.1 b.1 = .lt) :
    (place key value es).Pairwise fun a b => compare a.1 b.1 = .lt := by
  induction es with
  | nil => simp [place]
  | cons e rest ih =>
    have ⟨he, hr⟩ := List.pairwise_cons.1 h
    unfold place
    split
    · rename_i hlt
      refine List.pairwise_cons.2 ⟨fun b hb => ?_, h⟩
      rcases List.mem_cons.1 hb with rfl | hb
      · exact hlt
      · exact TransCmp.lt_trans hlt (he b hb)
    · rename_i heq
      have hk : key = e.1 := LawfulEqCmp.eq_of_compare heq
      exact List.pairwise_cons.2 ⟨fun b hb => hk ▸ he b hb, hr⟩
    · rename_i hgt
      refine List.pairwise_cons.2 ⟨fun b hb => ?_, ih hr⟩
      rcases mem_place hb with rfl | hb
      · exact OrientedCmp.gt_iff_lt.1 hgt
      · exact he b hb

/-- Put `value` under `key`, over the value that was there. -/
def insert (m : SortedMap κ α) (key : κ) (value : α) : SortedMap κ α :=
  ⟨place key value m.entries, place_sorted m.sorted⟩

/-- The map of a list of entries, a later entry over an earlier one of its key. -/
def ofList (es : List (κ × α)) : SortedMap κ α :=
  es.foldl (fun m e => m.insert e.1 e.2) empty

@[simp] theorem get?_insert_self (m : SortedMap κ α) (key : κ) (value : α) :
    (m.insert key value).get? key = some value :=
  lookup_place_self ..

theorem get?_insert_of_ne (m : SortedMap κ α) {key other : κ} (value : α)
    (h : other ≠ key) : (m.insert key value).get? other = m.get? other :=
  lookup_place_of_ne _ _ h

theorem get?_insert [DecidableEq κ] (m : SortedMap κ α) (key other : κ) (value : α) :
    (m.insert key value).get? other = if other = key then some value else m.get? other := by
  by_cases h : other = key
  · rw [if_pos h, h, get?_insert_self]
  · rw [if_neg h, get?_insert_of_ne _ _ h]

theorem mem_foldl_insert {es : List (κ × α)} {m : SortedMap κ α} {e : κ × α}
    (h : e ∈ (es.foldl (fun m e => m.insert e.1 e.2) m).entries) : e ∈ es ∨ e ∈ m.entries := by
  induction es generalizing m with
  | nil => exact .inr h
  | cons f rest ih =>
    rcases ih h with h | h
    · exact .inl (List.mem_cons_of_mem _ h)
    · rcases mem_place h with rfl | h
      · exact .inl List.mem_cons_self
      · exact .inr h

theorem mem_of_get?_ofList {es : List (κ × α)} {key : κ} {value : α}
    (h : (ofList es).get? key = some value) : (key, value) ∈ es :=
  (mem_foldl_insert (mem_entries_of_get? h)).resolve_right List.not_mem_nil

theorem isSome_get?_foldl_insert {es : List (κ × α)} {m : SortedMap κ α} {key : κ}
    (h : (m.get? key).isSome ∨ ∃ value, (key, value) ∈ es) :
    ((es.foldl (fun m e => m.insert e.1 e.2) m).get? key).isSome := by
  induction es generalizing m with
  | nil => exact h.resolve_right fun ⟨_, hv⟩ => List.not_mem_nil hv
  | cons f rest ih =>
    refine ih ?_
    by_cases hf : key = f.1
    · exact .inl (by simp [hf])
    · refine h.imp (fun hm => by rwa [get?_insert_of_ne _ _ hf]) fun ⟨value, hv⟩ => ?_
      exact ⟨value, (List.mem_cons.1 hv).resolve_left fun he => hf (congrArg Prod.fst he)⟩

theorem lookup_of_mem {key : κ} {value : α} {es : List (κ × α)}
    (hs : es.Pairwise fun a b => compare a.1 b.1 = .lt) (h : (key, value) ∈ es) :
    lookup key es = some value := by
  induction es with
  | nil => cases h
  | cons e rest ih =>
    obtain ⟨he, hr⟩ := List.pairwise_cons.1 hs
    rcases List.mem_cons.1 h with rfl | h
    · simp [lookup]
    · have hne : compare key e.1 ≠ .eq := by
        rw [OrientedCmp.gt_iff_lt.2 (he _ h)]
        nofun
      simpa [lookup, hne] using ih hr h

theorem get?_eq_some_iff {m : SortedMap κ α} {key : κ} {value : α} :
    m.get? key = some value ↔ (key, value) ∈ m.entries :=
  ⟨mem_of_lookup, lookup_of_mem m.sorted⟩

/-- An entry of a list is found in its map if the list has no other one of its key. -/
theorem get?_ofList_of_unique {es : List (κ × α)} {key : κ} {value : α} (h : (key, value) ∈ es)
    (hu : ∀ other, (key, other) ∈ es → other = value) : (ofList es).get? key = some value := by
  obtain ⟨found, hfound⟩ := Option.isSome_iff_exists.mp
    (isSome_get?_foldl_insert (m := empty) (.inr ⟨value, h⟩))
  rw [← hu found (mem_of_get?_ofList hfound)]
  exact hfound

theorem perm_foldl_insert {es : List (κ × α)} {m : SortedMap κ α}
    (h : ((es ++ m.entries).map Prod.fst).Nodup) :
    (es.foldl (fun m e => m.insert e.1 e.2) m).entries.Perm (es ++ m.entries) := by
  induction es generalizing m with
  | nil => exact .refl _
  | cons e rest ih =>
    obtain ⟨hfirst, hrest⟩ := List.nodup_cons.mp h
    have hinsert : (m.insert e.1 e.2).entries.Perm (e :: m.entries) := by
      refine perm_place fun f hf he => hfirst ?_
      exact he ▸ List.mem_map.mpr ⟨f, List.mem_append_right _ hf, rfl⟩
    have hperm : (rest ++ (m.insert e.1 e.2).entries).Perm (e :: rest ++ m.entries) :=
      (hinsert.append_left rest).trans List.perm_middle
    exact (ih ((hperm.map Prod.fst).nodup_iff.mpr h)).trans hperm

/-- A list of entries with different keys is the list of the map's entries in another order. -/
theorem perm_entries_ofList {es : List (κ × α)} (h : (es.map Prod.fst).Nodup) :
    (ofList es).entries.Perm es := by
  have hempty : es ++ (empty : SortedMap κ α).entries = es := List.append_nil es
  have hperm : (ofList es).entries.Perm (es ++ (empty : SortedMap κ α).entries) :=
    perm_foldl_insert (by rwa [hempty])
  rwa [hempty] at hperm

/-- A map of changed values has the changed values under its keys. -/
theorem get?_ofList_map {β : Type} (m : SortedMap κ α) (f : α → β) (key : κ) :
    (ofList (m.entries.map fun e => (e.1, f e.2))).get? key = (m.get? key).map f := by
  cases hm : m.get? key with
  | some value =>
    refine get?_ofList_of_unique
      (List.mem_map.mpr ⟨(key, value), get?_eq_some_iff.mp hm, rfl⟩) fun other ho => ?_
    obtain ⟨e, he, heq⟩ := List.mem_map.mp ho
    obtain ⟨rfl, rfl⟩ := Prod.mk.inj heq
    rw [get?_eq_some_iff.mpr he] at hm
    rw [Option.some.inj hm]
  | none =>
    cases hf : (ofList (m.entries.map fun e => (e.1, f e.2))).get? key with
    | none => rfl
    | some found =>
      obtain ⟨e, he, heq⟩ := List.mem_map.mp (mem_of_get?_ofList hf)
      obtain ⟨rfl, -⟩ := Prod.mk.inj heq
      rw [get?_eq_some_iff.mpr he] at hm
      cases hm

/-- The first key of a list is not below that of a list with the same look-ups. -/
theorem not_lt_of_lookup_eq {e f : κ × α} {es fs : List (κ × α)}
    (hfs : (f :: fs).Pairwise fun a b => compare a.1 b.1 = .lt)
    (h : ∀ key, lookup key (e :: es) = lookup key (f :: fs)) : compare e.1 f.1 ≠ .lt := by
  intro hlt
  have hnone : lookup e.1 (f :: fs) = none := by
    refine lookup_eq_none fun g hg => ?_
    rcases List.mem_cons.1 hg with rfl | hg
    · exact hlt
    · exact TransCmp.lt_trans hlt ((List.pairwise_cons.1 hfs).1 g hg)
  have hsome : lookup e.1 (e :: es) = some e.2 := by simp [lookup]
  rw [h, hnone] at hsome
  cases hsome

/-- Ordered lists with the same look-ups are equal. -/
theorem entries_eq_of_lookup_eq {es fs : List (κ × α)}
    (hes : es.Pairwise fun a b => compare a.1 b.1 = .lt)
    (hfs : fs.Pairwise fun a b => compare a.1 b.1 = .lt)
    (h : ∀ key, lookup key es = lookup key fs) : es = fs := by
  induction es generalizing fs with
  | nil =>
    cases fs with
    | nil => rfl
    | cons f fs => simpa [lookup] using h f.1
  | cons e es ih =>
    cases fs with
    | nil => simpa [lookup] using h e.1
    | cons f fs =>
      have hkey : e.1 = f.1 := by
        cases hc : compare e.1 f.1 with
        | eq => exact LawfulEqCmp.eq_of_compare hc
        | lt => exact absurd hc (not_lt_of_lookup_eq hfs h)
        | gt =>
          exact absurd (OrientedCmp.gt_iff_lt.1 hc)
            (not_lt_of_lookup_eq hes fun key => (h key).symm)
      have hval : e.2 = f.2 := by
        have := h e.1
        simpa [lookup, ← hkey] using this
      obtain rfl : e = f := Prod.ext hkey hval
      have ⟨he, hes'⟩ := List.pairwise_cons.1 hes
      have ⟨hf, hfs'⟩ := List.pairwise_cons.1 hfs
      refine congrArg (e :: ·) (ih hes' hfs' fun key => ?_)
      by_cases hc : compare key e.1 = .eq
      · obtain rfl := LawfulEqCmp.eq_of_compare hc
        rw [lookup_eq_none he, lookup_eq_none hf]
      · simpa [lookup, hc] using h key

/-- Maps with the same look-ups are equal. -/
theorem ext_get? {m n : SortedMap κ α} (h : ∀ key, m.get? key = n.get? key) : m = n := by
  cases m
  cases n
  congr 1
  exact entries_eq_of_lookup_eq ‹_› ‹_› h

end Lawful

end SortedMap

end SqlOperator
