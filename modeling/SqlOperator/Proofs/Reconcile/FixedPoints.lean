import SqlOperator.Proofs.Credentials.Environment
import SqlOperator.Proofs.Ownership.Inheritance
import SqlOperator.Proofs.Store.Versions

/-!
# Targets that are in line already

A mutation fixes an existing target if it gives it back as it is. What a mutation
has shaped it fixes, and neither the note of the last update nor the stamps of a
store change that. So does the same mutation with another new password at hand, or
made from a source that was only stamped anew.

## Implementation notes

The three mutations have one form: they claim the target, take over labels and
annotations, and set the content of the target, which they would set again to
what it is. `Mutation.Shapes` is this form, and all that follows is shown for it.
-/

namespace SqlOperator

namespace Metadata

theorem inheritFrom_congr {source other : Metadata} (hl : source.labels = other.labels)
    (ha : source.annotations = other.annotations) (m : Metadata) :
    m.inheritFrom source = m.inheritFrom other := by
  unfold inheritFrom
  rw [hl, ha]

theorem inheritFrom_stamp (m source : Metadata) (version : Nat) (now : Timestamp) :
    (m.stamp version now).inheritFrom source = (m.inheritFrom source).stamp version now := rfl

theorem inheritFrom_touch (m source : Metadata) (now : Timestamp) :
    (m.touch now).inheritFrom source = (m.inheritFrom source).touch now := by
  have hne : Annotation.correlationId ≠ Annotation.lastUpdated := by decide
  unfold inheritFrom touch setAnnotation
  simp only [labelsOrEmpty, annotationsOrEmpty, Option.getD_some]
  congr 2
  refine SortedMap.ext_get? fun key => ?_
  simp only [get?_copyEntry, SortedMap.get?_insert]
  by_cases hkey : key = Annotation.correlationId
  · rw [if_pos hkey, if_neg (hkey ▸ hne), if_pos hkey]
  · rw [if_neg hkey, if_neg hkey]

end Metadata

/-- The form of the mutations: they claim the target for `owner`, take over from `source`,
and set a content that does not depend on the metadata. -/
structure Mutation.Shapes {kind : Kind} (mutate : Mutation kind) (owner : OwnerReference)
    (source : Metadata) (content : kind.Object → Prop) : Prop where
  claimsFor : mutate.ClaimsFor owner source
  content_of_ok : ∀ {o presence desired}, mutate o presence = .ok desired → content desired
  existing_eq_ok : ∀ {o}, (kind.metadata o).BelongsTo owner →
    (kind.metadata o).inheritFrom source = kind.metadata o → content o →
    mutate o .existing = .ok o
  content_withMetadata : ∀ {o m}, content o → content (kind.withMetadata o m)

/-- The mutation leaves an existing target as it is. -/
def Mutation.Fixes {kind : Kind} (mutate : Mutation kind) (o : kind.Object) : Prop :=
  mutate o .existing = .ok o

namespace Mutation.Shapes

variable {kind : Kind} {mutate : Mutation kind} {owner : OwnerReference} {source : Metadata}
  {content : kind.Object → Prop} {o desired : kind.Object}

/-- A mutation fixes a target that belongs to the owner, has taken over from the source, and has the
content. -/
theorem fixes_iff (h : mutate.Shapes owner source content) :
    mutate.Fixes o ↔ (kind.metadata o).BelongsTo owner ∧
      (kind.metadata o).inheritFrom source = kind.metadata o ∧ content o := by
  constructor
  · intro hf
    obtain ⟨hb, hm⟩ := h.claimsFor.shaped_existing hf
    exact ⟨hb, hm.symm, h.content_of_ok hf⟩
  · rintro ⟨hb, hm, hc⟩
    exact h.existing_eq_ok hb hm hc

/-- What was shaped is in line. -/
theorem fixes_of_ok (h : mutate.Shapes owner source content) {presence : Presence}
    (hm : mutate o presence = .ok desired) : mutate.Fixes desired := by
  obtain ⟨claimed, hclaim, hmeta⟩ := h.claimsFor _ _ _ hm
  have hb : claimed.BelongsTo owner := by
    cases presence with
    | new => exact Metadata.belongsTo_of_claim_new hclaim
    | existing =>
      obtain ⟨hb, rfl⟩ := Metadata.claim_existing_eq_ok.mp hclaim
      exact hb
  refine h.fixes_iff.mpr ⟨hmeta ▸ hb.inheritFrom source, ?_, h.content_of_ok hm⟩
  rw [hmeta, Metadata.inheritFrom_inheritFrom]

/-- The note of an update does not count. -/
theorem fixes_touch (h : mutate.Shapes owner source content) (hf : mutate.Fixes o)
    (now : Timestamp) : mutate.Fixes (kind.touch o now) := by
  obtain ⟨hb, hm, hc⟩ := h.fixes_iff.mp hf
  refine h.fixes_iff.mpr ⟨?_, ?_, h.content_withMetadata hc⟩
  · rw [Kind.metadata_touch]
    exact hb.touch now
  · rw [Kind.metadata_touch, Metadata.inheritFrom_touch, hm]

/-- What a store sets does not count. -/
theorem fixes_stamp (h : mutate.Shapes owner source content) (hf : mutate.Fixes o)
    (version : Nat) (now : Timestamp) : mutate.Fixes (kind.stamp o version now) := by
  obtain ⟨hb, hm, hc⟩ := h.fixes_iff.mp hf
  refine h.fixes_iff.mpr ⟨?_, ?_, h.content_withMetadata hc⟩
  · rw [Kind.metadata_stamp]
    exact hb.stamp version now
  · rw [Kind.metadata_stamp, Metadata.inheritFrom_stamp, hm]

end Mutation.Shapes

theorem Certificate.shapeSecret_shapes (c : Certificate) (data : SecretData) :
    (c.shapeSecret data).Shapes (Kind.ownerReference .certificate c) c.metadata
      fun secret => secret.data = some data ∧ secret.stringData = none where
  claimsFor := c.shapeSecret_claimsFor data
  content_of_ok h := by
    obtain ⟨claimed, -, rfl⟩ := shapeSecret_eq_ok.mp h
    exact ⟨rfl, rfl⟩
  existing_eq_ok {secret} hb hm hc := by
    refine shapeSecret_eq_ok.mpr ⟨_, Metadata.claim_existing_eq_ok.mpr ⟨hb, rfl⟩, ?_⟩
    rw [← hc.1, ← hc.2]
    exact (congrArg (fun m => ({ secret with metadata := m } : Secret)) hm).symm
  content_withMetadata h := h

theorem Instance.shapePolicy_shapes (i : Instance) (addresses : List String) :
    (i.shapePolicy addresses).Shapes (Kind.ownerReference .sqlInstance i) i.metadata
      fun policy => policy.spec = some (policySpec i.app addresses) where
  claimsFor := i.shapePolicy_claimsFor addresses
  content_of_ok h := by
    obtain ⟨claimed, -, rfl⟩ := shapePolicy_eq_ok.mp h
    rfl
  existing_eq_ok {policy} hb hm hc := by
    refine shapePolicy_eq_ok.mpr ⟨_, Metadata.claim_existing_eq_ok.mpr ⟨hb, rfl⟩, ?_⟩
    rw [← hc]
    exact (congrArg (fun m => ({ policy with metadata := m } : NetworkPolicy)) hm).symm
  content_withMetadata h := h

namespace User

variable {access : Access} {seed : PasswordSeed} {secret : Secret}

/-- The secret is the one that a user of this access asks for. -/
def Content (access : Access) (seed : PasswordSeed) (secret : Secret) : Prop :=
  ∃ environment, (access.connection (access.settle seed secret)).environment = .ok environment ∧
    secret.data = some (secretData environment) ∧ secret.stringData = none

/-- A password that is there already stays, whatever new one is at hand. -/
theorem Content.reseed (h : Content access seed secret) (other : PasswordSeed) :
    Content access other secret := by
  obtain ⟨environment, henv, hdata, hstring⟩ := h
  have hsettle : access.settle other secret = access.settle seed secret :=
    settle_eq_of_keeps (keeps_of_data_eq henv hdata).1 (settle_ne_empty access seed secret)
  exact ⟨environment, hsettle ▸ henv, hdata, hstring⟩

theorem shapeSecret_shapes (u : User) (access : Access) (seed : PasswordSeed) :
    (u.shapeSecret access seed).Shapes (Kind.ownerReference .user u) u.metadata
      (Content access seed) where
  claimsFor := u.shapeSecret_claimsFor access seed
  content_of_ok {secret _ desired} h := by
    have hkeeps := (keeps_of_shapeSecret h).1
    obtain ⟨claimed, environment, -, henv, rfl⟩ := shapeSecret_eq_ok.mp h
    refine ⟨environment, ?_, rfl, rfl⟩
    rw [settle_eq_of_keeps hkeeps (settle_ne_empty access seed secret)]
    exact henv
  existing_eq_ok {secret} hb hm hc := by
    obtain ⟨environment, henv, hdata, hstring⟩ := hc
    refine shapeSecret_eq_ok.mpr
      ⟨_, environment, Metadata.claim_existing_eq_ok.mpr ⟨hb, rfl⟩, henv, ?_⟩
    rw [← hdata, ← hstring]
    exact (congrArg (fun m => ({ secret with metadata := m } : Secret)) hm).symm
  content_withMetadata h := h

end User

/-- The mutations of all three sources shape their targets in this way. -/
theorem Source.Shaping.exists_shapes {s : Source} {x : s.kind.Object}
    {mutate : Mutation s.target} (h : s.Shaping x mutate) :
    ∃ content, mutate.Shapes (s.kind.ownerReference x) (s.kind.metadata x) content := by
  cases h with
  | certificate c data => exact ⟨_, c.shapeSecret_shapes data⟩
  | sqlInstance i addresses => exact ⟨_, i.shapePolicy_shapes addresses⟩
  | user u access seed => exact ⟨_, u.shapeSecret_shapes access seed⟩

end SqlOperator
