import SqlOperator.Proofs.Reconcile.Shapes
import SqlOperator.Proofs.Reconcile.Stages

/-!
# Whom a target belongs to

A claim on an existing target succeeds exactly if the target belongs to the
claimant, and a new target belongs to it afterwards. What else a reconcile and a
store do to metadata leaves this, and the key, alone.
-/

namespace SqlOperator

namespace Metadata

variable {m : Metadata} {owner : OwnerReference}

/-- The operator manages the object, and `owner` names its one owner. -/
structure BelongsTo (m : Metadata) (owner : OwnerReference) : Prop where
  managed : m.label? Label.managedBy = some operatorId
  owned : ∃ found, m.ownerReferences = some [found] ∧ found.apiVersion = owner.apiVersion ∧
    found.kind = owner.kind ∧ found.name = owner.name

theorem sameObject_iff (a b : OwnerReference) :
    a.sameObject b = true ↔ a.apiVersion = b.apiVersion ∧ a.kind = b.kind ∧ a.name = b.name := by
  simp [OwnerReference.sameObject, and_assoc]

theorem sameObject_self (owner : OwnerReference) : owner.sameObject owner = true :=
  (sameObject_iff owner owner).mpr ⟨rfl, rfl, rfl⟩

/-- The check reads the key, one label and the owners of a target. -/
theorem validateOwnership_congr {n : Metadata} (hkey : m.description = n.description)
    (hmanaged : m.label? Label.managedBy = n.label? Label.managedBy)
    (howners : m.ownerReferences = n.ownerReferences) (owner : OwnerReference) :
    m.validateOwnership owner = n.validateOwnership owner := by
  unfold validateOwnership
  rw [hkey, hmanaged, howners]

/-- A managed target with one owner passes the check for all who name this owner. -/
theorem validateOwnership_of_owned {found : OwnerReference}
    (hmanaged : m.label? Label.managedBy = some operatorId)
    (howners : m.ownerReferences = some [found]) (owner : OwnerReference) :
    m.validateOwnership owner =
      if found.sameObject owner then .ok ()
      else .error (.ownedByOther m.description found.kind found.name) := by
  unfold validateOwnership
  rw [if_neg (not_not_intro hmanaged), howners]
  rfl

/-- The check lets exactly the targets pass that belong to the owner. -/
theorem validateOwnership_eq_ok : m.validateOwnership owner = .ok () ↔ m.BelongsTo owner := by
  unfold validateOwnership
  by_cases hm : m.label? Label.managedBy = some operatorId
  · rw [if_neg (not_not_intro hm)]
    constructor
    · intro h
      refine ⟨hm, ?_⟩
      match hr : m.ownerReferences, h with
      | some [found], h =>
        by_cases hf : found.sameObject owner = true
        · exact ⟨found, rfl, (sameObject_iff found owner).mp hf⟩
        · simp [hf] at h
    · rintro ⟨-, found, hr, hf⟩
      simp [hr, (sameObject_iff found owner).mpr hf]
  · rw [if_pos hm]
    exact ⟨nofun, fun h => absurd h.managed hm⟩

theorem claim_new (m : Metadata) (owner : OwnerReference) :
    m.claim .new owner =
      .ok ({ m with ownerReferences := some [owner] }.setLabel Label.managedBy operatorId) := rfl

/-- An existing target is claimed as it is, and only by whom it belongs to. -/
theorem claim_existing_eq_ok {claimed : Metadata} :
    m.claim .existing owner = .ok claimed ↔ m.BelongsTo owner ∧ claimed = m := by
  rw [← validateOwnership_eq_ok]
  unfold claim
  cases m.validateOwnership owner with
  | ok u => exact ⟨fun h => ⟨rfl, (Except.ok.inj h).symm⟩, fun h => h.2 ▸ rfl⟩
  | error e => exact ⟨nofun, nofun⟩

theorem label?_eq (m : Metadata) (key : String) : m.label? key = m.labelsOrEmpty.get? key := by
  unfold label? labelsOrEmpty
  cases m.labels <;> rfl

/-- A claimed new target belongs to the claimant. -/
theorem belongsTo_of_claim_new {claimed : Metadata} (h : m.claim .new owner = .ok claimed) :
    claimed.BelongsTo owner := by
  obtain rfl := Except.ok.inj ((claim_new m owner).symm.trans h)
  refine ⟨?_, owner, rfl, rfl, rfl, rfl⟩
  simp [label?, setLabel]

/-- An entry that the source does not have is taken away from the target. -/
theorem get?_copyEntry (target : TextMap) (source : Option TextMap) (key other : String) :
    (copyEntry target source key).get? other =
      if other = key then source.bind (·.get? key) else target.get? other := by
  unfold copyEntry
  by_cases ho : other = key
  · subst ho
    cases source.bind (·.get? other) <;> simp
  · cases source.bind (·.get? key) with
    | none => rw [if_neg ho, SortedMap.get?_erase_of_ne _ ho]
    | some value => rw [if_neg ho, SortedMap.get?_insert_of_ne _ _ ho]

theorem label?_inheritFrom_managedBy (m source : Metadata) :
    (m.inheritFrom source).label? Label.managedBy = m.label? Label.managedBy := by
  have hTeam : Label.managedBy ≠ Label.team := by decide
  have hApp : Label.managedBy ≠ Label.app := by decide
  have hType : Label.managedBy ≠ Label.type := by decide
  rw [label?_eq m]
  simp [inheritFrom, label?, get?_copyEntry, hTeam, hApp, SortedMap.get?_insert_of_ne _ _ hType]

/-- Taking over labels does not touch who manages and owns an object. -/
theorem BelongsTo.inheritFrom (h : m.BelongsTo owner) (source : Metadata) :
    (m.inheritFrom source).BelongsTo owner :=
  ⟨(label?_inheritFrom_managedBy m source).trans h.managed, h.owned⟩

theorem BelongsTo.touch (h : m.BelongsTo owner) (now : Timestamp) :
    (m.touch now).BelongsTo owner := ⟨h.managed, h.owned⟩

theorem BelongsTo.stamp (h : m.BelongsTo owner) (version : Nat) (now : Timestamp) :
    (m.stamp version now).BelongsTo owner := ⟨h.managed, h.owned⟩

end Metadata

/-- The mutation claims what it shapes for `owner` and takes over from `source`. -/
def Mutation.ClaimsFor {kind : Kind} (mutate : Mutation kind) (owner : OwnerReference)
    (source : Metadata) : Prop :=
  ∀ o presence desired, mutate o presence = .ok desired →
    ∃ claimed, (kind.metadata o).claim presence owner = .ok claimed ∧
      kind.metadata desired = claimed.inheritFrom source

namespace Mutation.ClaimsFor

variable {kind : Kind} {mutate : Mutation kind} {owner : OwnerReference} {source : Metadata}

/-- What is shaped anew has the key that it is shaped for, and `owner` as its owner. -/
theorem shaped_new (h : mutate.ClaimsFor owner source) {key : ObjectKey}
    {desired : kind.Object} (hm : mutate (kind.blank key) .new = .ok desired) :
    kind.key desired = key ∧ (kind.metadata desired).BelongsTo owner ∧
      (kind.metadata desired).ownerReferences = some [owner] := by
  obtain ⟨claimed, hc, hd⟩ := h _ _ _ hm
  have hb := Metadata.belongsTo_of_claim_new hc
  obtain rfl := Except.ok.inj ((Metadata.claim_new _ owner).symm.trans hc)
  refine ⟨?_, hd ▸ hb.inheritFrom source, hd ▸ rfl⟩
  rw [Kind.key, hd, Kind.metadata_blank]
  rfl

/-- Only what belongs to `owner` is shaped, and it keeps its key, version and owners. -/
theorem shaped_existing (h : mutate.ClaimsFor owner source) {current desired : kind.Object}
    (hm : mutate current .existing = .ok desired) :
    (kind.metadata current).BelongsTo owner ∧
      kind.metadata desired = (kind.metadata current).inheritFrom source := by
  obtain ⟨claimed, hc, hd⟩ := h _ _ _ hm
  obtain ⟨hb, rfl⟩ := Metadata.claim_existing_eq_ok.mp hc
  exact ⟨hb, hd⟩

end Mutation.ClaimsFor

theorem Certificate.shapeSecret_claimsFor (c : Certificate) (data : SecretData) :
    (c.shapeSecret data).ClaimsFor (Kind.ownerReference .certificate c) c.metadata := by
  intro secret presence desired h
  obtain ⟨claimed, hc, rfl⟩ := shapeSecret_eq_ok.mp h
  exact ⟨claimed, hc, rfl⟩

theorem Instance.shapePolicy_claimsFor (i : Instance) (addresses : List String) :
    (i.shapePolicy addresses).ClaimsFor (Kind.ownerReference .sqlInstance i) i.metadata := by
  intro policy presence desired h
  obtain ⟨claimed, hc, rfl⟩ := shapePolicy_eq_ok.mp h
  exact ⟨claimed, hc, rfl⟩

theorem User.shapeSecret_claimsFor (u : User) (access : Access) (seed : PasswordSeed) :
    (u.shapeSecret access seed).ClaimsFor (Kind.ownerReference .user u) u.metadata := by
  intro secret presence desired h
  obtain ⟨claimed, environment, hc, -, rfl⟩ := shapeSecret_eq_ok.mp h
  exact ⟨claimed, hc, rfl⟩

/-- The mutations of all three sources claim their target for the source. -/
theorem Source.Shaping.claimsFor {s : Source} {x : s.kind.Object} {mutate : Mutation s.target}
    (h : s.Shaping x mutate) : mutate.ClaimsFor (s.kind.ownerReference x) (s.kind.metadata x) := by
  cases h with
  | certificate c data => exact c.shapeSecret_claimsFor data
  | sqlInstance i addresses => exact i.shapePolicy_claimsFor addresses
  | user u access seed => exact u.shapeSecret_claimsFor access seed

end SqlOperator
