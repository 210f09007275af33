import SqlOperator.Proofs.Ownership.Inheritance

/-!
# Targets that take over from one source after another

A target forgets its former sources: all that follows a source is as the last one has it,
present or absent, and all else is as it was before the first. Whom a target belongs to is
decided by its label of management and its owners, and no source reaches these, not even one
that carries such a label itself.

So the check of the owner comes out as it did before, with the same fault if it fails, and a
target that was claimed when it was new stays with the claimant whatever it takes over.
-/

namespace SqlOperator

namespace Metadata

/-- Only the last source that is taken over from counts. -/
theorem inheritFrom_foldl_inheritFrom (former : List Metadata) (m source : Metadata) :
    (former.foldl inheritFrom m).inheritFrom source = m.inheritFrom source := by
  induction former generalizing m with
  | nil => rfl
  | cons first rest ih =>
    calc (rest.foldl inheritFrom (m.inheritFrom first)).inheritFrom source
        = (m.inheritFrom first).inheritFrom source := ih _
      _ = m.inheritFrom source := inheritFrom_inheritFrom m first source

/-- A source does not matter to the check of the owner. -/
theorem validateOwnership_inheritFrom (m source : Metadata) (owner : OwnerReference) :
    (m.inheritFrom source).validateOwnership owner = m.validateOwnership owner := by
  have hkey : (m.inheritFrom source).description = m.description := rfl
  have howners : (m.inheritFrom source).ownerReferences = m.ownerReferences := rfl
  exact validateOwnership_congr hkey (label?_inheritFrom_managedBy m source) howners owner

/-- Taking over, however often, does not change who may claim a target. -/
theorem validateOwnership_foldl_inheritFrom (sources : List Metadata) (m : Metadata)
    (owner : OwnerReference) :
    (sources.foldl inheritFrom m).validateOwnership owner = m.validateOwnership owner := by
  induction sources generalizing m with
  | nil => rfl
  | cons first rest ih => exact (ih _).trans (validateOwnership_inheritFrom m first owner)

/-- A new target that was claimed passes the check for all who name the claimant. -/
theorem validateOwnership_claim_new {m claimed : Metadata} {owner : OwnerReference}
    (h : m.claim .new owner = .ok claimed) (other : OwnerReference) :
    claimed.validateOwnership other =
      if owner.sameObject other then .ok ()
      else .error (.ownedByOther m.description owner.kind owner.name) := by
  have hmanaged := (belongsTo_of_claim_new h).managed
  obtain rfl := Except.ok.inj ((claim_new m owner).symm.trans h)
  exact validateOwnership_of_owned hmanaged rfl other

/-- However many sources a target takes over from, the last one decides on all that follows a
source, and the rest of the target is retained. The check of the owner comes out as before
them all, be it with a fault. A new target can be claimed, whatever it carries; and from then
on, through all that it takes over, it passes the check for the claimant, and for others
exactly if they name the same object. -/
theorem last_source_and_claim_decide (target : Metadata) (owner : OwnerReference) :
    (∀ (former : List Metadata) (source : Metadata),
      let m := (former.foldl inheritFrom target).inheritFrom source
      m = target.inheritFrom source ∧ m.Follows source ∧ m.Retains target) ∧
    (∀ sources : List Metadata,
      (sources.foldl inheritFrom target).validateOwnership owner =
        target.validateOwnership owner) ∧
    ∃ claimed, target.claim .new owner = .ok claimed ∧ ∀ sources : List Metadata,
      (sources.foldl inheritFrom claimed).validateOwnership owner = .ok () ∧
      ∀ other, (sources.foldl inheritFrom claimed).validateOwnership other =
        if owner.sameObject other then .ok ()
        else .error (.ownedByOther target.description owner.kind owner.name) := by
  obtain ⟨claimed, hclaim⟩ : ∃ claimed, target.claim .new owner = .ok claimed :=
    ⟨_, claim_new target owner⟩
  refine ⟨?_, ?_, claimed, hclaim, ?_⟩
  · intro former source m
    have hlast : m = target.inheritFrom source :=
      inheritFrom_foldl_inheritFrom former target source
    rw [hlast]
    exact ⟨rfl, follows_inheritFrom target source, retains_inheritFrom target source⟩
  · intro sources
    exact validateOwnership_foldl_inheritFrom sources target owner
  · intro sources
    have hcheck (other : OwnerReference) :
        (sources.foldl inheritFrom claimed).validateOwnership other =
          if owner.sameObject other then .ok ()
          else .error (.ownedByOther target.description owner.kind owner.name) := by
      rw [validateOwnership_foldl_inheritFrom]
      exact validateOwnership_claim_new hclaim other
    refine ⟨?_, hcheck⟩
    rw [hcheck, if_pos (sameObject_self owner)]

/-! A source hands on neither its own manager nor its type, and a team that it lacks is
taken away. -/

example :
    let target : Metadata :=
      { labels := some (.ofList [(Label.managedBy, operatorId), (Label.team, "red")]) }
    let source : Metadata :=
      { labels := some (.ofList [(Label.managedBy, "helm"), (Label.type, "database")]) }
    (target.inheritFrom source).labels =
      some (.ofList [(Label.managedBy, operatorId), (Label.type, operatorId)]) := by
  decide

end Metadata

end SqlOperator
