import SqlOperator.Net.IpAddress
import SqlOperator.Proofs.Text.Cuts
import SqlOperator.Proofs.Text.Numerals

/-!
# Address literals denote their addresses

An address that is written down is read back, in each of the three ways in which addresses
are written: four decimal numbers, hexadecimal groups with the longest run of zeros left out,
and an IPv4 address that is mapped to IPv6.
-/

namespace SqlOperator

open Text

namespace Ipv4Address

theorem octet?_toDigits : ∀ n < 256, octet? (Nat.toDigits 10 n) = some (UInt8.ofNat n) := by
  decide +kernel

/-- An IPv4 literal has digits and dots only. -/
theorem forall_mem_render (x : Ipv4Address) (P : Char → Prop) (hdot : P '.')
    (hdigit : ∀ d < 10, P (Nat.digitChar d)) : ∀ c ∈ x.render, P c := by
  intro c hc
  rcases mem_join hc with hc | ⟨p, hp, hc⟩
  · exact List.mem_singleton.mp hc ▸ hdot
  · obtain ⟨n, -, rfl⟩ := List.mem_map.mp hp
    exact (isDigitOf_of_mem_toDigits (by decide) hc).elim P hdigit

/-- A literal is read as the address that it was written for. -/
theorem parse?_render (x : Ipv4Address) : parse? x.render = some x := by
  have hfields : fields '.' x.render = x.octets.map fun n => Nat.toDigits 10 n.toNat := by
    refine fields_join (by simp [octets]) fun p hp => ?_
    obtain ⟨n, -, rfl⟩ := List.mem_map.mp hp
    exact notMem_of_isDigitOf (fun _ => isDigitOf_of_mem_toDigits (by decide)) (by decide)
  have hoctet : ∀ n : UInt8, octet? (Nat.toDigits 10 n.toNat) = some n := fun n => by
    rw [octet?_toDigits n.toNat n.toNat_lt, UInt8.ofNat_toNat]
  rw [parse?, hfields]
  simp [octets, hoctet]

/-- Without a dot there is no IPv4 address. -/
theorem parse?_of_notMem {cs : List Char} (h : '.' ∉ cs) : parse? cs = none := by
  rw [parse?, fields_of_notMem h]

theorem isDigit_of_octet? {digits : List Char} {n : UInt8} (h : octet? digits = some n) :
    ∀ c ∈ digits, c.isDigit = true := by
  unfold octet? at h
  split at h
  · cases h
  · obtain ⟨value, hvalue, -⟩ := Option.bind_eq_some_iff.mp h
    unfold decimal? at hvalue
    split at hvalue
    · cases hvalue
    · rename_i hdigits
      obtain ⟨-, hall⟩ := by simpa using hdigits
      exact hall

variable {cs rest : List Char} {c : Char} {x y : Ipv4Address}

/-- A literal is four numbers. -/
theorem fields_of_parse? (h : parse? cs = some x) :
    (fields '.' cs).length = 4 ∧ ∀ field ∈ fields '.' cs, ∀ c ∈ field, c.isDigit = true := by
  unfold parse? at h
  split at h
  · rename_i a b c d hfields
    simp only [Option.bind_eq_bind, Option.bind_eq_some_iff] at h
    obtain ⟨_, ha, _, hb, _, hc, _, hd, -⟩ := h
    rw [hfields]
    simp only [List.forall_mem_cons]
    exact ⟨rfl, isDigit_of_octet? ha, isDigit_of_octet? hb, isDigit_of_octet? hc,
      isDigit_of_octet? hd, nofun⟩
  · cases h

/-- A literal that is another one continued goes on with a digit. -/
theorem isDigit_of_parse?_append (hx : parse? cs = some x)
    (hy : parse? (cs ++ c :: rest) = some y) : c.isDigit = true := by
  obtain ⟨hlength, hdigits⟩ := fields_of_parse? hy
  have hmem : c ∈ cs ++ c :: rest := List.mem_append_right _ List.mem_cons_self
  rcases mem_fields '.' hmem with rfl | ⟨field, hfield, hc⟩
  · have hmore := List.length_pos_iff.mpr (fields_ne_nil '.' rest)
    rw [fields_append_sep, List.length_append, (fields_of_parse? hx).1] at hlength
    omega
  · exact hdigits field hfield c hc

end Ipv4Address

namespace Ipv6Address

theorem group?_ofNat (g : UInt16) : group? (Hex.ofNat g.toNat) = some g := by
  have hne : (Hex.ofNat g.toNat).isEmpty = false := by simp [Hex.ofNat, Nat.toDigits_ne_nil]
  have hlength : (Hex.ofNat g.toNat).length ≤ 4 :=
    (Nat.length_toDigits_le_iff (by decide) (by decide)).mpr g.toNat_lt
  rw [group?, hne, if_neg (by simpa using hlength), Hex.toNat?_ofNat, Option.map_some,
    UInt16.ofNat_toNat]

theorem mapM_group? (gs : List UInt16) :
    (gs.map fun g => Hex.ofNat g.toNat).mapM group? = some gs := by
  induction gs with
  | nil => rfl
  | cons g gs ih => simp [List.mapM_cons, group?_ofNat, ih]

/-- Groups as texts are not empty and have digits only. -/
theorem digits_of_mem_map {gs : List UInt16} {p : List Char}
    (h : p ∈ gs.map fun g => Hex.ofNat g.toNat) : p ≠ [] ∧ ∀ c ∈ p, IsDigitOf 16 c := by
  obtain ⟨g, -, rfl⟩ := List.mem_map.mp h
  exact ⟨Nat.toDigits_ne_nil, fun _ => isDigitOf_of_mem_toDigits (by decide)⟩

theorem digits_of_mem_renderGroups {gs : List UInt16} {c : Char} (h : c ∈ renderGroups gs) :
    c = ':' ∨ IsDigitOf 16 c := by
  refine (mem_join h).imp List.mem_singleton.mp fun ⟨p, hp, hc⟩ => ?_
  exact (digits_of_mem_map hp).2 c hc

theorem fields_renderGroups {gs : List UInt16} (hne : gs ≠ []) :
    fields ':' (renderGroups gs) = gs.map fun g => Hex.ofNat g.toNat :=
  fields_join (by simpa using hne) fun _ hp =>
    notMem_of_isDigitOf (digits_of_mem_map hp).2 (by decide)

theorem isEmpty_renderGroups (gs : List UInt16) : (renderGroups gs).isEmpty = gs.isEmpty := by
  cases gs with
  | nil => rfl
  | cons g gs =>
    have hne : Hex.ofNat g.toNat ≠ [] := Nat.toDigits_ne_nil
    cases gs <;> simp [renderGroups, join, hne]

/-- Groups are read as they were written; the last one is never taken for an IPv4 literal. -/
theorem groups?_renderGroups (gs : List UInt16) : groups? (renderGroups gs) = some gs := by
  rw [groups?, isEmpty_renderGroups]
  cases hgs : gs.isEmpty with
  | true => simp [List.isEmpty_iff.mp hgs]
  | false =>
    have hne : gs ≠ [] := by simpa using hgs
    have hlast : ((gs.map fun g => Hex.ofNat g.toNat).getLast?.bind Ipv4Address.parse?) = none := by
      refine Option.bind_eq_none_iff.mpr fun p hp => Ipv4Address.parse?_of_notMem ?_
      exact notMem_of_isDigitOf (digits_of_mem_map (List.mem_of_getLast? hp)).2 (by decide)
    rw [if_neg Bool.false_ne_true]
    dsimp only
    rw [fields_renderGroups hne, hlast]
    exact mapM_group? gs

/-- The groups in front of `::` are read like those behind it. -/
theorem front_renderGroups (gs : List UInt16) :
    (if (renderGroups gs).isEmpty then some []
      else (fields ':' (renderGroups gs)).mapM group?) = some gs := by
  rw [isEmpty_renderGroups]
  cases hgs : gs.isEmpty with
  | true => simp [List.isEmpty_iff.mp hgs]
  | false =>
    have hne : gs ≠ [] := by simpa using hgs
    rw [if_neg Bool.false_ne_true, fields_renderGroups hne]
    exact mapM_group? gs

theorem cutFirst?_renderGroups_append (gs : List UInt16) (rest : List Char) :
    cutFirst? [':', ':'] (renderGroups gs ++ rest) =
      (cutFirst? [':', ':'] rest).map fun cut => (renderGroups gs ++ cut.1, cut.2) :=
  cutFirst?_join_append (fun _ hp => ⟨(digits_of_mem_map hp).1,
    notMem_of_isDigitOf (digits_of_mem_map hp).2 (by decide)⟩) rest

/-- A run of zero groups that is at least two groups long is there. -/
theorem zeroRun_cases (gs : List UInt16) :
    (zeroRun gs).2 < 2 ∨
      (zeroRun gs).1 < gs.length ∧ (zeroRun gs).2 = leadingZeros (gs.drop (zeroRun gs).1) := by
  have hfold : ∀ (is : List Nat) (best : Nat × Nat), (∀ i ∈ is, i < gs.length) →
      (best.2 < 2 ∨ best.1 < gs.length ∧ best.2 = leadingZeros (gs.drop best.1)) →
      let found := is.foldl (fun best i =>
        let n := leadingZeros (gs.drop i)
        if best.2 < n then (i, n) else best) best
      found.2 < 2 ∨ found.1 < gs.length ∧ found.2 = leadingZeros (gs.drop found.1) := by
    intro is
    induction is with
    | nil => exact fun best _ h => h
    | cons i is ih =>
      intro best his hbest
      obtain ⟨hi, his⟩ := List.forall_mem_cons.mp his
      refine ih _ his ?_
      dsimp only
      split
      · exact .inr ⟨hi, rfl⟩
      · exact hbest
  exact hfold _ (0, 1) (fun _ => List.mem_range.mp) (.inl (by decide))

theorem takeWhile_eq_replicate (gs : List UInt16) :
    gs.takeWhile (· = 0) = List.replicate (leadingZeros gs) 0 :=
  List.eq_replicate_iff.mpr ⟨rfl, fun _ hb => by simpa using List.mem_takeWhile_imp hb⟩

/-- A literal with `::` stands for its groups with zeros in between, if there is room for
any. -/
theorem parse?_of_cut {cs before after : List Char} {front back : List UInt16}
    (hcut : cutFirst? [':', ':'] cs = some (before, after))
    (hfront : (if before.isEmpty then some [] else (fields ':' before).mapM group?) = some front)
    (hback : groups? after = some back) (n : Nat) (hn : n ≠ 0) (x : Ipv6Address)
    (hx : x.groups = front ++ List.replicate n 0 ++ back) : parse? cs = some x := by
  have hlength : front.length + n + back.length = 8 := by
    rw [← x.length_eq, hx]
    simp [Nat.add_assoc]
  have hmissing : 8 - (front.length + back.length) = n := by omega
  have hgroups : ofGroups? (front ++ List.replicate n 0 ++ back) = some x := by
    rw [← hx, ofGroups?, dif_pos x.length_eq]
  rw [parse?, hcut]
  dsimp only
  by_cases hb : before.isEmpty = true
  · rw [if_pos hb] at hfront ⊢
    obtain rfl := Option.some.inj hfront
    simp only [hback, Option.bind_eq_bind, Option.bind_some, hmissing, if_neg hn, hgroups]
  · rw [if_neg hb] at hfront ⊢
    simp only [hfront, hback, Option.bind_eq_bind, Option.bind_some, hmissing, if_neg hn, hgroups]

/-- The groups that are left out of a literal are found again, with or without a run of zeros. -/
theorem parse?_render (x : Ipv6Address) : parse? x.render = some x := by
  have hnone : cutFirst? [':', ':'] (renderGroups x.groups) = none := by
    simpa [cutFirst?] using cutFirst?_renderGroups_append x.groups []
  unfold render
  rcases hrun : zeroRun x.groups with ⟨start, length⟩
  have hcases := zeroRun_cases x.groups
  rw [hrun] at hcases
  dsimp only at hcases ⊢
  by_cases hlt : length < 2
  · rw [if_pos hlt, parse?, hnone]
    simp only [groups?_renderGroups, Option.bind_some, ofGroups?, x.length_eq, dite_true]
  · rw [if_neg hlt]
    obtain ⟨hstart, hlength⟩ := hcases.resolve_left hlt
    have hcut : cutFirst? [':', ':'] (renderGroups (x.groups.take start) ++ ':' :: ':' ::
        renderGroups (x.groups.drop (start + length))) =
        some (renderGroups (x.groups.take start),
          renderGroups (x.groups.drop (start + length))) := by
      rw [cutFirst?_renderGroups_append]
      simp [cutFirst?]
    refine parse?_of_cut hcut (front_renderGroups _) (groups?_renderGroups _) length (by omega) x ?_
    obtain ⟨rest, hrest⟩ : ∃ rest, x.groups.drop start = List.replicate length 0 ++ rest :=
      ⟨_, by rw [hlength, ← takeWhile_eq_replicate, List.takeWhile_append_dropWhile]⟩
    calc x.groups = x.groups.take start ++ x.groups.drop start := (List.take_append_drop ..).symm
      _ = x.groups.take start ++ List.replicate length 0 ++ x.groups.drop (start + length) := by
        rw [← List.drop_drop, hrest, List.drop_left' (by simp), List.append_assoc]

/-- A group is put together from its two bytes. -/
theorem ofNat_bytes (g : UInt16) :
    UInt16.ofNat ((UInt8.ofNat (g.toNat / 256)).toNat * 256 + (UInt8.ofNat (g.toNat % 256)).toNat) =
      g := by
  have hg : g.toNat < 65536 := g.toNat_lt
  have hvalue : (UInt8.ofNat (g.toNat / 256)).toNat * 256 + (UInt8.ofNat (g.toNat % 256)).toNat =
      g.toNat := by
    rw [UInt8.toNat_ofNat', UInt8.toNat_ofNat']
    omega
  rw [hvalue, UInt16.ofNat_toNat]

theorem groups_of_mappedV4? {x : Ipv6Address} {v4 : Ipv4Address} (h : x.mappedV4? = some v4) :
    x.groups = [0, 0, 0, 0, 0, 0xffff] ++ v4.groups := by
  unfold mappedV4? at h
  split at h
  · rename_i first second hgroups
    obtain rfl := Option.some.inj h
    rw [hgroups, Ipv4Address.groups, ofNat_bytes, ofNat_bytes]
    rfl
  · cases h

theorem groups?_mapped (v4 : Ipv4Address) :
    groups? ("ffff:".toList ++ v4.render) = some (0xffff :: v4.groups) := by
  have hcolon : ':' ∉ v4.render := fun hm =>
    v4.forall_mem_render (· ≠ ':') (by decide) (by decide) ':' hm rfl
  have hfields : fields ':' ("ffff:".toList ++ v4.render) = ["ffff".toList, v4.render] := by
    change fields ':' ("ffff".toList ++ ':' :: v4.render) = _
    rw [fields_append_cons (by decide), fields_of_notMem hcolon]
  have hgroup : ["ffff".toList].mapM group? = some [0xffff] := by decide
  rw [groups?, if_neg (by simp)]
  dsimp only
  rw [hfields]
  simp only [List.getLast?_cons_cons, List.getLast?_singleton, Option.bind_some,
    Ipv4Address.parse?_render, List.dropLast_cons_cons, List.dropLast_singleton, hgroup,
    Option.bind_eq_bind, List.singleton_append]

/-- The form for mapped addresses is read like the other one. -/
theorem parse?_renderMapped (x : Ipv6Address) : parse? x.renderMapped = some x := by
  unfold renderMapped
  cases hv4 : x.mappedV4? with
  | none => exact parse?_render x
  | some v4 =>
    exact parse?_of_cut rfl rfl (groups?_mapped v4) 5 (by decide) x (groups_of_mappedV4? hv4)

end Ipv6Address

/-- What literals of either family are made of. -/
def IsAddressChar (c : Char) : Prop := c = '.' ∨ c = ':' ∨ IsDigitOf 16 c

theorem IsAddressChar.elim {c : Char} (h : IsAddressChar c) (P : Char → Prop) (hdot : P '.')
    (hcolon : P ':') (hdigit : ∀ d < 16, P (Nat.digitChar d)) : P c := by
  rcases h with rfl | rfl | h
  · exact hdot
  · exact hcolon
  · exact h.elim P hdigit

theorem isAddressChar_digitChar (d : Nat) (hd : d < 10) : IsAddressChar (Nat.digitChar d) :=
  .inr (.inr ⟨d, by omega, rfl⟩)

theorem Ipv4Address.isAddressChar_of_mem_render {x : Ipv4Address} {c : Char} (h : c ∈ x.render) :
    IsAddressChar c :=
  x.forall_mem_render IsAddressChar (.inl rfl) isAddressChar_digitChar c h

namespace Ipv6Address

variable {x : Ipv6Address} {c : Char}

theorem isAddressChar_of_mem_render (h : c ∈ x.render) : IsAddressChar c := by
  have hgroups : ∀ {gs : List UInt16}, c ∈ renderGroups gs → IsAddressChar c :=
    fun h => .inr (digits_of_mem_renderGroups h)
  unfold render at h
  dsimp only at h
  split at h
  · exact hgroups h
  · rcases List.mem_append.mp h with h | h
    · exact hgroups h
    · rcases List.mem_cons.mp h with rfl | h
      · exact .inr (.inl rfl)
      rcases List.mem_cons.mp h with rfl | h
      · exact .inr (.inl rfl)
      · exact hgroups h

theorem isAddressChar_of_mem_renderMapped (h : c ∈ x.renderMapped) : IsAddressChar c := by
  unfold renderMapped at h
  split at h
  · rcases List.mem_append.mp h with h | h
    · have hmark : ("::ffff:".toList.all fun c => c = ':' ∨ c = Nat.digitChar 15) = true := by
        decide
      have hc := of_decide_eq_true (List.all_eq_true.mp hmark c h)
      exact .inr (hc.imp_right fun hc => ⟨15, by decide, hc⟩)
    · exact Ipv4Address.isAddressChar_of_mem_render h
  · exact isAddressChar_of_mem_render h

end Ipv6Address

end SqlOperator
