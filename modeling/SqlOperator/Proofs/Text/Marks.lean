import Mathlib.Data.List.Infix
import SqlOperator.Proofs.Text.Cuts

/-!
# The first place of a mark

A text is cut at the first place where a mark of any length stands. A mark without a line break
never reaches across one. So a mark that stands behind lines in which it does not occur stands
there for the first time, whatever else the lines have of it.
-/

namespace SqlOperator.Text

variable {mark cs before after xs ys : List Char}

theorem cutFirst?_nil (mark : List Char) :
    cutFirst? mark [] = if mark = [] then some ([], []) else none := rfl

theorem cutFirst?_of_starts {rest : List Char} {c : Char} (h : mark <+: c :: rest) :
    cutFirst? mark (c :: rest) = some ([], (c :: rest).drop mark.length) :=
  if_pos (List.isPrefixOf_iff_prefix.mpr h)

theorem cutFirst?_of_not_starts {rest : List Char} {c : Char} (h : ¬mark <+: c :: rest) :
    cutFirst? mark (c :: rest) =
      (cutFirst? mark rest).map fun cut => (c :: cut.1, cut.2) :=
  if_neg (mt List.isPrefixOf_iff_prefix.mp h)

/-- There is a place to cut a text exactly if the mark is somewhere in it. -/
theorem isSome_cutFirst?_iff : (cutFirst? mark cs).isSome ↔ mark <:+: cs := by
  constructor
  · intro h
    obtain ⟨⟨before, after⟩, hcut⟩ := Option.isSome_iff_exists.mp h
    exact ⟨before, after, (eq_append_of_cutFirst? hcut).symm⟩
  · intro h
    induction cs with
    | nil =>
      obtain rfl := List.infix_nil.mp h
      rfl
    | cons c rest ih =>
      by_cases hstarts : mark <+: c :: rest
      · rw [cutFirst?_of_starts hstarts]
        rfl
      · rw [cutFirst?_of_not_starts hstarts, Option.isSome_map]
        exact ih ((List.infix_cons_iff.mp h).resolve_left hstarts)

/-- The mark does not stand at any place before the one where the text is cut. -/
theorem length_le_of_cutFirst? {earlier later : List Char}
    (h : cutFirst? mark (earlier ++ later) = some (before, after)) (hlater : mark <+: later) :
    before.length ≤ earlier.length := by
  induction earlier generalizing before with
  | nil =>
    cases later with
    | nil =>
      obtain rfl := List.prefix_nil.mp hlater
      obtain ⟨rfl, -⟩ := Prod.mk.inj (Option.some.inj h)
      exact Nat.le_refl 0
    | cons c rest =>
      rw [List.nil_append, cutFirst?_of_starts hlater] at h
      obtain ⟨rfl, -⟩ := Prod.mk.inj (Option.some.inj h)
      exact Nat.le_refl 0
  | cons c earlier ih =>
    rw [List.cons_append] at h
    by_cases hstarts : mark <+: c :: (earlier ++ later)
    · rw [cutFirst?_of_starts hstarts] at h
      obtain ⟨rfl, -⟩ := Prod.mk.inj (Option.some.inj h)
      exact Nat.zero_le _
    · rw [cutFirst?_of_not_starts hstarts] at h
      obtain ⟨⟨start, more⟩, hcut, heq⟩ := Option.map_eq_some_iff.mp h
      obtain ⟨rfl, rfl⟩ := Prod.mk.inj heq
      exact Nat.succ_le_succ (ih hcut)

/-- A text is cut where the mark stands, and this is the first such place. -/
theorem cutFirst?_eq_some_iff :
    cutFirst? mark cs = some (before, after) ↔ cs = before ++ mark ++ after ∧
      ∀ earlier later, cs = earlier ++ later → mark <+: later →
        before.length ≤ earlier.length := by
  constructor
  · intro h
    refine ⟨eq_append_of_cutFirst? h, ?_⟩
    rintro earlier later rfl hlater
    exact length_le_of_cutFirst? h hlater
  · rintro ⟨hcs, hfirst⟩
    -- The text is cut somewhere, and both places are first.
    obtain ⟨⟨start, more⟩, hcut⟩ :=
      Option.isSome_iff_exists.mp (isSome_cutFirst?_iff.mpr ⟨before, after, hcs.symm⟩)
    have heq := eq_append_of_cutFirst? hcut
    have hle : before.length ≤ start.length := by
      refine hfirst start (mark ++ more) ?_ (List.prefix_append mark more)
      rw [heq, List.append_assoc]
    have hge : start.length ≤ before.length := by
      rw [hcs, List.append_assoc] at hcut
      exact length_le_of_cutFirst? hcut (List.prefix_append mark after)
    rw [hcs, List.append_assoc, List.append_assoc] at heq
    obtain ⟨rfl, hrest⟩ := List.append_inj heq (Nat.le_antisymm hle hge)
    rw [hcut, List.append_cancel_left hrest]

theorem cutFirst?_self_append (mark after : List Char) :
    cutFirst? mark (mark ++ after) = some ([], after) :=
  cutFirst?_eq_some_iff.mpr ⟨rfl, fun _ _ _ _ => Nat.zero_le _⟩

/-! ### Marks and lines -/

variable {sep : Char}

/-- A mark without a separator is on one side of it. -/
theorem infix_append_cons (hsep : sep ∉ mark) (h : mark <:+: xs ++ sep :: ys) :
    mark <:+: xs ∨ mark <:+: ys := by
  obtain ⟨front, back, h⟩ := h
  rcases List.append_eq_append_iff.mp h with ⟨more, rfl, -⟩ | ⟨more, hfront, hback⟩
  · exact .inl ⟨front, more, rfl⟩
  cases more with
  | nil => exact .inl ⟨front, [], by simpa using hfront⟩
  | cons c more =>
    obtain ⟨rfl, hys⟩ := List.cons.inj hback
    rcases List.append_eq_append_iff.mp hfront with ⟨part, rfl, hpart⟩ | ⟨part, rfl, hpart⟩
    · -- The separator would be in the mark.
      exact absurd (hpart ▸ List.mem_append_right _ List.mem_cons_self) hsep
    · cases part with
      | nil =>
        obtain rfl : sep :: more = mark := hpart
        exact absurd List.mem_cons_self hsep
      | cons d part =>
        obtain ⟨rfl, hmore⟩ := List.cons.inj hpart
        exact .inr ⟨part, back, by simp [hys, hmore]⟩

/-- The text consists of whole lines. -/
def IsLines (cs : List Char) : Prop := cs = [] ∨ cs.getLast? = some '\n'

/-- A mark that stands behind lines without it stands there for the first time. -/
theorem cutFirst?_append_of_isLines (hlines : IsLines before) (hbreak : '\n' ∉ mark)
    (hfree : ¬mark <:+: before) (after : List Char) :
    cutFirst? mark (before ++ mark ++ after) = some (before, after) := by
  refine cutFirst?_eq_some_iff.mpr ⟨rfl, ?_⟩
  intro earlier later hsplit hlater
  by_contra hlt
  rw [List.append_assoc] at hsplit
  rcases List.append_eq_append_iff.mp hsplit with ⟨part, rfl, -⟩ | ⟨part, rfl, rfl⟩
  · rw [List.length_append] at hlt
    omega
  have hne : part ≠ [] := by
    rintro rfl
    simp at hlt
  -- The mark would start in the lines, and could not end behind them.
  have hlast : '\n' ∈ part := by
    rcases hlines with hnil | hlast
    · exact absurd (List.append_eq_nil_iff.mp hnil).2 hne
    · rw [List.getLast?_append_of_ne_nil _ hne] at hlast
      exact List.mem_of_getLast? hlast
  rcases List.prefix_or_prefix_of_prefix hlater (List.prefix_append part _) with hin | hover
  · exact hfree (hin.isInfix.trans (List.suffix_append earlier part).isInfix)
  · exact hbreak (hover.subset hlast)

end SqlOperator.Text
