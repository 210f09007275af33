import Mathlib.Tactic.SplitIfs
import SqlOperator.Proofs.Ownership.Belonging
import SqlOperator.Proofs.Store.Identities
import SqlOperator.Proofs.Upsert.Stages

/-!
# What a target takes over and what it retains

Three labels and one annotation of a target follow its source, and one annotation notes the
last change. All other labels and annotations of a target are its own, as are all other parts
of its metadata but the version: whoever has set them finds them again.
-/

namespace SqlOperator

namespace Label

/-- The labels that follow the source of a target. -/
def inherited : List String := [type, app, team]

end Label

namespace Annotation

/-- The annotations that an upsert may set. -/
def maintained : List String := [correlationId, lastUpdated]

end Annotation

namespace Metadata

variable {m before source : Metadata} {key : String} {now : Timestamp}

/-- What follows the source is as the source has it, present or absent. -/
structure Follows (m source : Metadata) : Prop where
  type : m.label? Label.type = some operatorId
  app : m.label? Label.app = source.label? Label.app
  team : m.label? Label.team = source.label? Label.team
  correlationId :
    m.annotation? Annotation.correlationId = source.annotation? Annotation.correlationId

/-- Everything is as it was before, but what follows a source, the note of the last change and
the version. -/
structure Retains (m before : Metadata) : Prop where
  labels : ∀ key ∉ Label.inherited, m.label? key = before.label? key
  annotations : ∀ key ∉ Annotation.maintained, m.annotation? key = before.annotation? key
  rest : m = { before with
    labels := m.labels, annotations := m.annotations, resourceVersion := m.resourceVersion }

theorem annotation?_eq (m : Metadata) (key : String) :
    m.annotation? key = m.annotationsOrEmpty.get? key := by
  unfold annotation? annotationsOrEmpty
  cases m.annotations <;> rfl

/-- The labels for application and team are those of the source, and the type is fixed. -/
theorem label?_inheritFrom (m source : Metadata) (key : String) :
    (m.inheritFrom source).label? key =
      if key = Label.team then source.label? Label.team
      else if key = Label.app then source.label? Label.app
      else if key = Label.type then some operatorId
      else m.label? key := by
  rw [label?_eq m]
  simp only [inheritFrom, label?, Option.bind_some, get?_copyEntry, SortedMap.get?_insert]

/-- Only the correlation identifier is taken over. -/
theorem annotation?_inheritFrom (m source : Metadata) (key : String) :
    (m.inheritFrom source).annotation? key =
      if key = Annotation.correlationId then source.annotation? Annotation.correlationId
      else m.annotation? key := by
  rw [annotation?_eq m]
  simp only [inheritFrom, annotation?, Option.bind_some, get?_copyEntry]

/-- What was taken over from a former source is forgotten. -/
theorem inheritFrom_inheritFrom (m former source : Metadata) :
    (m.inheritFrom former).inheritFrom source = m.inheritFrom source := by
  unfold inheritFrom
  simp only [labelsOrEmpty, annotationsOrEmpty, Option.getD_some]
  congr 2
  · refine SortedMap.ext_get? fun key => ?_
    simp only [get?_copyEntry]
    split_ifs <;> rfl
  · refine SortedMap.ext_get? fun key => ?_
    simp only [get?_copyEntry, SortedMap.get?_insert]
    split_ifs <;> rfl

theorem annotation?_touch (m : Metadata) (now : Timestamp) (key : String) :
    (m.touch now).annotation? key =
      if key = Annotation.lastUpdated then some now.render else m.annotation? key := by
  rw [annotation?_eq m]
  simp only [touch, setAnnotation, annotation?, Option.bind_some, SortedMap.get?_insert]

/-! ### What follows the source -/

theorem follows_inheritFrom (m source : Metadata) : (m.inheritFrom source).Follows source where
  type := label?_inheritFrom m source Label.type
  app := label?_inheritFrom m source Label.app
  team := label?_inheritFrom m source Label.team
  correlationId := annotation?_inheritFrom m source Annotation.correlationId

theorem Follows.touch (h : m.Follows source) (now : Timestamp) : (m.touch now).Follows source where
  type := h.type
  app := h.app
  team := h.team
  correlationId := (annotation?_touch m now Annotation.correlationId).trans h.correlationId

theorem Follows.stamp (h : m.Follows source) (version : Nat) (now : Timestamp) :
    (m.stamp version now).Follows source := ⟨h.type, h.app, h.team, h.correlationId⟩

/-! ### What is retained -/

theorem Retains.refl (m : Metadata) : m.Retains m := ⟨fun _ _ => rfl, fun _ _ => rfl, rfl⟩

theorem retains_inheritFrom (m source : Metadata) : (m.inheritFrom source).Retains m where
  labels key hkey := by
    simp only [Label.inherited, List.mem_cons, List.not_mem_nil, or_false, not_or] at hkey
    rw [label?_inheritFrom, if_neg hkey.2.2, if_neg hkey.2.1, if_neg hkey.1]
  annotations key hkey := by
    simp only [List.mem_cons, List.not_mem_nil, or_false, not_or, Annotation.maintained] at hkey
    rw [annotation?_inheritFrom, if_neg hkey.1]
  rest := rfl

theorem Retains.touch (h : m.Retains before) (now : Timestamp) :
    (m.touch now).Retains before where
  labels := h.labels
  annotations key hkey := by
    have hnote : key ≠ Annotation.lastUpdated :=
      fun he => hkey (by simp [he, Annotation.maintained])
    rw [annotation?_touch, if_neg hnote, h.annotations key hkey]
  rest := by
    conv => lhs; rw [h.rest]
    rfl

/-- An object that was stored before is stored again as the same one. -/
theorem Retains.stamp (h : m.Retains before) (hid : before.Identified) (version : Nat)
    (now : Timestamp) : (m.stamp version now).Retains before where
  labels := h.labels
  annotations := h.annotations
  rest := by
    have hsame : m.Identified := by
      rw [h.rest]
      exact ⟨hid.uid, hid.created⟩
    rw [hsame.stamp_eq]
    conv => lhs; rw [h.rest]

end Metadata

end SqlOperator
