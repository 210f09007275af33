import Mathlib.Data.List.Forall2
import SqlOperator.Json.Record

/-!
# Records that are written and read

A record is written as an object that leaves out some of its fields, and it is read from an object
that may have members of other names. A field that is left out has to be put back when it is read,
and other members make no difference to any reader of the record, at whatever depth they are.

## Implementation notes

Which members are new is a matter of the record that is read, so every record comes with rules of
its own: its fields, and what may become of their values. An unknown member is then one without
a rule.
-/

namespace SqlOperator.Json

/-- The fields of a record, and what may become of the value of each. -/
abbrev Rules := List (String × (Json → Json → Prop))

/-- New members are put between the members of an object. The members that are there stay in
order, and the values of fields follow their rules. -/
inductive GainsMembers (rules : Rules) : (members gained : List (String × Json)) → Prop where
  | nil : GainsMembers rules [] []
  | known {name : String} {rule : Json → Json → Prop} {value other : Json}
      {members gained : List (String × Json)} (hname : rules.lookup name = some rule)
      (hvalue : rule value other) (hrest : GainsMembers rules members gained) :
      GainsMembers rules ((name, value) :: members) ((name, other) :: gained)
  | unknown {name : String} {members gained : List (String × Json)}
      (hname : rules.lookup name = none) (value : Json)
      (hrest : GainsMembers rules members gained) :
      GainsMembers rules ((name, value) :: members) ((name, value) :: gained)
  | new {name : String} {members gained : List (String × Json)}
      (hname : rules.lookup name = none) (value : Json)
      (hrest : GainsMembers rules members gained) :
      GainsMembers rules members ((name, value) :: gained)

/-- An object with new members in it, or in the objects inside of it. -/
inductive Gains (rules : Rules) : Json → Json → Prop where
  | obj {members gained : List (String × Json)} (h : GainsMembers rules members gained) :
      Gains rules (.obj members) (.obj gained)

/-- A list with elements that follow a rule one by one. -/
inductive EachGains (rule : Json → Json → Prop) : Json → Json → Prop where
  | arr {elements others : List Json} (h : List.Forall₂ rule elements others) :
      EachGains rule (.arr elements) (.arr others)

/-- A reader makes no difference between a value and what may become of it. -/
structure Blind {α : Type} (rule : Json → Json → Prop) (value? : Json → Option α) : Prop where
  read {value other : Json} : rule value other → value? other = value? value
  null {value other : Json} : rule value other → (other = .null ↔ value = .null)

/-- What is written is read as what it was. -/
structure Restores {α : Type} (write : α → Json) (value? : Json → Option α) : Prop where
  read (x : α) : value? (write x) = some x
  not_null (x : α) : write x ≠ .null

/-- The members of a record that leaves out fields. -/
def written (fields : List (String × Option Json)) : List (String × Json) :=
  fields.flatMap fun field => member field.1 field.2

/-- A text that is left out when it is empty. -/
def nonempty? (text : String) : Option Json := if text.isEmpty then none else some (.str text)

theorem nonemptyMember_eq (name text : String) :
    nonemptyMember name text = member name (nonempty? text) := by
  unfold nonemptyMember nonempty?
  split
  · rfl
  · rfl

variable {α : Type} {rule : Json → Json → Prop} {rules : Rules} {value? : Json → Option α}
  {write : α → Json} {name : String}

theorem blind_eq (value? : Json → Option α) : Blind Eq value? where
  read h := by rw [h]
  null h := by rw [h]

theorem nullable?_of_ne {value : Json} (h : value ≠ .null) :
    nullable? value? value = (value? value).map some := by
  unfold nullable?
  split
  · exact absurd rfl h
  · rfl

theorem Blind.nullable? (h : Blind rule value?) :
    Blind rule (nullable? value?) where
  read {value other} hrule := by
    by_cases hnull : value = .null
    · rw [(h.null hrule).mpr hnull, hnull]
    · rw [nullable?_of_ne hnull, nullable?_of_ne (mt (h.null hrule).mp hnull), h.read hrule]
  null := h.null

/-! ### Lists -/

theorem Blind.each (h : Blind rule value?) : Blind (EachGains rule) (asList? value?) where
  read := by
    rintro _ _ ⟨helements⟩
    change List.mapM value? _ = List.mapM value? _
    induction helements with
    | nil => rfl
    | cons hvalue _ ih => rw [List.mapM_cons, List.mapM_cons, h.read hvalue, ih]
  null := by
    rintro _ _ ⟨-⟩
    exact iff_of_false nofun nofun

theorem Restores.each (h : Restores write value?) :
    Restores (fun xs => .arr (xs.map write)) (asList? value?) where
  read xs := by
    change List.mapM value? (xs.map write) = some xs
    induction xs with
    | nil => rfl
    | cons x rest ih =>
      rw [List.map_cons, List.mapM_cons, h.read x, ih]
      rfl
  not_null _ := nofun

theorem restores_text : Restores Json.str asText? where
  read _ := rfl
  not_null _ := nofun

namespace Record

variable {r s : Record} {x : α}

/-- Two records with the same fields, whose values follow the rules. -/
def Gains (rules : Rules) (r s : Record) : Prop :=
  List.Forall₂ (fun m n => m.1 = n.1 ∧ ∃ rule, rules.lookup m.1 = some rule ∧ rule m.2 n.2)
    r.fields s.fields

theorem contains_names_eq {β : Type} (fields : List (String × β)) (name : String) :
    (fields.map Prod.fst).contains name = (fields.lookup name).isSome := by
  induction fields with
  | nil => rfl
  | cons entry rest ih =>
    rw [List.map_cons, List.contains_cons, ih, List.lookup_cons]
    cases name == entry.1 with
    | true => rfl
    | false => rfl

/-- The members with a rule are the fields, and they are still there. -/
theorem fields_of_gainsMembers {members gained : List (String × Json)}
    (h : GainsMembers rules members gained) :
    Gains rules ⟨members.filter fun m => (rules.map Prod.fst).contains m.1⟩
      ⟨gained.filter fun m => (rules.map Prod.fst).contains m.1⟩ := by
  simp only [contains_names_eq]
  induction h with
  | nil => exact .nil
  | known hname hvalue _ ih =>
    rw [List.filter_cons_of_pos (by simp [hname]), List.filter_cons_of_pos (by simp [hname])]
    exact .cons ⟨rfl, _, hname, hvalue⟩ ih
  | unknown hname _ _ ih =>
    rw [List.filter_cons_of_neg (by simp [hname]), List.filter_cons_of_neg (by simp [hname])]
    exact ih
  | new hname _ _ ih =>
    rw [List.filter_cons_of_neg (by simp [hname])]
    exact ih

/-- No field is added or taken away. -/
theorem Gains.names_eq (h : Gains rules r s) : s.fields.map (·.1) = r.fields.map (·.1) := by
  obtain ⟨ms⟩ := r
  obtain ⟨ns⟩ := s
  change List.Forall₂ _ ms ns at h
  change ns.map (·.1) = ms.map (·.1)
  induction h with
  | nil => rfl
  | cons hfield _ ih => rw [List.map_cons, List.map_cons, hfield.1, ih]

/-- A field is missing in both records, or its values follow its rule. -/
theorem Gains.get?_cases (h : Gains rules r s) (hname : rules.lookup name = some rule) :
    (r.get? name = none ∧ s.get? name = none) ∨
      ∃ value other, r.get? name = some value ∧ s.get? name = some other ∧ rule value other := by
  obtain ⟨ms⟩ := r
  obtain ⟨ns⟩ := s
  change List.Forall₂ _ ms ns at h
  unfold get?
  induction h with
  | nil => exact .inl ⟨rfl, rfl⟩
  | @cons m n ms ns hfield _ ih =>
    obtain ⟨heq, own, hown, hvalue⟩ := hfield
    rw [List.lookup_cons, List.lookup_cons, ← heq]
    cases hm : name == m.1 with
    | false => exact ih
    | true =>
      obtain rfl : rule = own := by
        rw [← beq_iff_eq.mp hm, hname] at hown
        exact Option.some.inj hown
      exact .inr ⟨_, _, rfl, rfl, hvalue⟩

/-- A reader that is blind to the rule of a field reads the same value of it. -/
theorem Gains.required? (h : Gains rules r s) (hname : rules.lookup name = some rule)
    (hblind : Blind rule value?) : s.required? name value? = r.required? name value? := by
  unfold Record.required?
  rcases h.get?_cases hname with ⟨hr, hs⟩ | ⟨value, other, hr, hs, hrule⟩
  · rw [hr, hs]
  · rw [hr, hs]
    exact hblind.read hrule

theorem Gains.withDefault? (h : Gains rules r s) (hname : rules.lookup name = some rule)
    (hblind : Blind rule value?) (default : α) :
    s.withDefault? name default value? = r.withDefault? name default value? := by
  unfold Record.withDefault?
  rcases h.get?_cases hname with ⟨hr, hs⟩ | ⟨value, other, hr, hs, hrule⟩
  · rw [hr, hs]
  · rw [hr, hs]
    exact hblind.read hrule

theorem Gains.optional? (h : Gains rules r s) (hname : rules.lookup name = some rule)
    (hblind : Blind rule value?) : s.optional? name value? = r.optional? name value? :=
  h.withDefault? hname hblind.nullable? none

/-- A reader of the fields is blind to members of other names. -/
theorem blind {build : Record → Option α}
    (h : ∀ r s : Record, Gains rules r s → build s = build r) (least : Nat) :
    Blind (Json.Gains rules) fun value =>
      (ofJson? (rules.map Prod.fst) least value).bind build where
  read := by
    rintro _ _ ⟨hmembers⟩
    have hfields := fields_of_gainsMembers hmembers
    simp only [ofJson?, hfields.names_eq]
    split
    · exact h _ _ hfields
    · rfl
  null := by
    rintro _ _ ⟨-⟩
    exact iff_of_false nofun nofun

/-! ### Fields that are left out -/

variable {fields : List (String × Option Json)}

theorem names_written_sublist (fields : List (String × Option Json)) :
    ((written fields).map Prod.fst).Sublist (fields.map Prod.fst) := by
  induction fields with
  | nil => exact List.Sublist.refl _
  | cons field rest ih =>
    obtain ⟨name, value⟩ := field
    cases value with
    | none => exact ih.cons name
    | some value => exact ih.cons_cons name

/-- What is looked up in written members is what was to be written. -/
theorem lookup_written (hnodup : (fields.map Prod.fst).Nodup) (name : String) :
    (written fields).lookup name = (fields.lookup name).join := by
  induction fields with
  | nil => rfl
  | cons field rest ih =>
    obtain ⟨key, value⟩ := field
    obtain ⟨hkey, hrest⟩ := List.nodup_cons.mp hnodup
    cases value with
    | none =>
      change (written rest).lookup name = _
      rw [ih hrest, List.lookup_cons]
      cases hname : name == key with
      | false => rfl
      | true =>
        have hnone : rest.lookup name = none := by
          rw [← Option.not_isSome_iff_eq_none, ← contains_names_eq, List.contains_iff_mem,
            beq_iff_eq.mp hname]
          exact hkey
        rw [hnone]
        rfl
    | some value =>
      change List.lookup name ((key, value) :: written rest) = _
      rw [List.lookup_cons, List.lookup_cons, ih hrest]
      cases name == key with
      | false => rfl
      | true => rfl

/-- A reader gets the fields that were written, whatever else is in front of them. -/
theorem read_written {names : List String} (others : List (String × Json)) (least : Nat)
    {build : Record → Option α} {result : Option α} (hnames : fields.map Prod.fst = names)
    (hnodup : names.Nodup) (hothers : ∀ m ∈ others, m.1 ∉ names)
    (h : ∀ r : Record, (∀ name, r.get? name = (fields.lookup name).join) → build r = result) :
    (ofJson? names least (.obj (others ++ written fields))).bind build = result := by
  subst hnames
  have hnone : others.filter (fun m => (fields.map Prod.fst).contains m.1) = [] :=
    List.filter_eq_nil_iff.mpr fun m hm => by simpa using hothers m hm
  have hall : (written fields).filter (fun m => (fields.map Prod.fst).contains m.1) =
      written fields := by
    refine List.filter_eq_self.mpr fun m hm => ?_
    rw [List.contains_iff_mem]
    exact (names_written_sublist fields).subset (List.mem_map_of_mem hm)
  have hknown : (others ++ written fields).filter
      (fun m => (fields.map Prod.fst).contains m.1) = written fields := by
    rw [List.filter_append, hnone, hall, List.nil_append]
  simp only [ofJson?, hknown]
  rw [if_pos (hnodup.sublist (names_written_sublist fields))]
  exact h ⟨written fields⟩ (lookup_written hnodup)

/-- A record comes back if its fields do. -/
theorem restores {fields : α → List (String × Option Json)} {names : List String} (least : Nat)
    {build : Record → Option α} (hwrite : ∀ x, write x = .obj (written (fields x)))
    (hnames : ∀ x, (fields x).map Prod.fst = names) (hnodup : names.Nodup)
    (h : ∀ x (r : Record), (∀ name, r.get? name = ((fields x).lookup name).join) →
      build r = some x) :
    Restores write fun value => (ofJson? names least value).bind build where
  read x := by
    rw [hwrite]
    exact read_written [] least (hnames x) hnodup nofun (h x)
  not_null x := by
    rw [hwrite]
    nofun

/-- A field that was written is there to be read. -/
theorem required?_restores (hget : r.get? name = some (write x)) (h : Restores write value?) :
    r.required? name value? = some x := by
  rw [required?, hget]
  exact h.read x

theorem withDefault?_restores {default : α}
    (hget : r.get? name = some (write x) ∨ r.get? name = none ∧ x = default)
    (h : Restores write value?) : r.withDefault? name default value? = some x := by
  unfold withDefault?
  rcases hget with hsome | ⟨hnone, rfl⟩
  · rw [hsome]
    exact h.read x
  · rw [hnone]

/-- A text that was left out because it is empty is read as the empty text. -/
theorem text_restores {text : String} (hget : r.get? name = nonempty? text) :
    r.withDefault? name "" asText? = some text := by
  refine withDefault?_restores ?_ restores_text
  rw [hget, nonempty?]
  split
  · rename_i hempty
    exact .inr ⟨rfl, String.isEmpty_iff.mp hempty⟩
  · exact .inl rfl

theorem optional?_restores {x : Option α} (hget : r.get? name = x.map write)
    (h : Restores write value?) : r.optional? name value? = some x := by
  unfold optional? withDefault?
  rw [hget]
  cases x with
  | none => rfl
  | some x =>
    change nullable? value? (write x) = some (some x)
    rw [nullable?_of_ne (h.not_null x), h.read x]
    rfl

/-! ### Records of one field -/

section Single

variable {β : Type}

theorem blind_single (name : String) (build : Option α → β) (h : Blind rule value?) :
    Blind (Json.Gains [(name, rule)]) fun value =>
      (ofJson? [name] 0 value).bind fun r =>
        (r.optional? name value?).bind fun x => some (build x) := by
  refine blind (fun r s hgains => ?_) 0
  have hname : List.lookup name [(name, rule)] = some rule := by simp
  rw [hgains.optional? hname h]

/-- A record of one optional field comes back if the field does. -/
theorem restores_single (name : String) (build : Option α → β) {field : β → Option α}
    (hbuild : ∀ x, build (field x) = x) (h : Restores write value?) :
    Restores (fun x => .obj (member name ((field x).map write))) fun value =>
      (ofJson? [name] 0 value).bind fun r =>
        (r.optional? name value?).bind fun x => some (build x) := by
  have hwritten (x : β) : Json.obj (member name ((field x).map write)) =
      .obj (written [(name, (field x).map write)]) := by
    simp [written]
  refine restores 0 hwritten (fun _ => rfl) (by simp) fun x r hget => ?_
  have hfield : r.get? name = (field x).map write := by simpa using hget name
  rw [optional?_restores hfield h]
  exact congrArg some (hbuild x)

end Single

end Record

end SqlOperator.Json
