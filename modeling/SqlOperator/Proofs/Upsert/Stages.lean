import SqlOperator.Proofs.Program.Always
import SqlOperator.Upsert

/-!
# The course of an upsert

An upsert fetches its target and makes at most one further call, which writes what
the mutation makes of the answer. `Upsert.Calls` and `Upsert.Ends` list all its
courses, whatever the store answers.
-/

namespace SqlOperator

namespace Kind

@[simp] theorem metadata_touch (kind : Kind) (o : kind.Object) (now : Timestamp) :
    kind.metadata (kind.touch o now) = (kind.metadata o).touch now :=
  metadata_withMetadata ..

@[simp] theorem key_touch (kind : Kind) (o : kind.Object) (now : Timestamp) :
    kind.key (kind.touch o now) = kind.key o := by
  simp [key, ObjectKey.ofMetadata, Metadata.anyName, Metadata.touch, Metadata.setAnnotation]

@[simp] theorem metadata_blank (kind : Kind) (key : ObjectKey) :
    kind.metadata (kind.blank key) =
      { name := some key.name, «namespace» := some key.namespace } :=
  metadata_withMetadata ..

end Kind

namespace Upsert

variable (now : Timestamp) {kind : Kind} (key : ObjectKey) (mutate : Mutation kind)

/-- The calls of an upsert, each after the exchanges before it. -/
inductive Calls : List Exchange → Call → Prop where
  | fetch : Calls [] (.get kind key)
  | create {desired : kind.Object} : mutate (kind.blank key) .new = .ok desired →
      Calls [⟨.get kind key, .ok none⟩] (.create kind (kind.touch desired now))
  | replace {current desired : kind.Object} : mutate current .existing = .ok desired →
      desired ≠ current →
      Calls [⟨.get kind key, .ok (some current)⟩] (.replace kind (kind.touch desired now))

/-- What an upsert ends in, given all its exchanges. -/
inductive Ends : List Exchange → Except Failure Operation → Prop where
  | unread (e : StoreError) : Ends [⟨.get kind key, .error e⟩] (.error (.ofStore e))
  | notShaped {failure : Failure} : mutate (kind.blank key) .new = .error failure →
      Ends [⟨.get kind key, .ok none⟩] (.error failure)
  | notCreated {desired : kind.Object} (e : StoreError) :
      mutate (kind.blank key) .new = .ok desired →
      Ends [⟨.get kind key, .ok none⟩, ⟨.create kind (kind.touch desired now), .error e⟩]
        (.error (.ofStore e))
  | created {desired : kind.Object} (stored : kind.Object) :
      mutate (kind.blank key) .new = .ok desired →
      Ends [⟨.get kind key, .ok none⟩, ⟨.create kind (kind.touch desired now), .ok stored⟩]
        (.ok .created)
  | notReshaped {current : kind.Object} {failure : Failure} :
      mutate current .existing = .error failure →
      Ends [⟨.get kind key, .ok (some current)⟩] (.error failure)
  | unchanged {current : kind.Object} : mutate current .existing = .ok current →
      Ends [⟨.get kind key, .ok (some current)⟩] (.ok .unchanged)
  | notUpdated {current desired : kind.Object} (e : StoreError) :
      mutate current .existing = .ok desired → desired ≠ current →
      Ends [⟨.get kind key, .ok (some current)⟩,
        ⟨.replace kind (kind.touch desired now), .error e⟩] (.error (.ofStore e))
  | updated {current desired : kind.Object} (stored : kind.Object) :
      mutate current .existing = .ok desired → desired ≠ current →
      Ends [⟨.get kind key, .ok (some current)⟩,
        ⟨.replace kind (kind.touch desired now), .ok stored⟩] (.ok .updated)

end Upsert

/-- Every upsert takes one of these courses. -/
theorem upsert_always (now : Timestamp) (kind : Kind) (key : ObjectKey)
    (mutate : Mutation kind) :
    (upsert now kind key mutate).run.Always (Upsert.Calls now key mutate)
      (Upsert.Ends now key mutate) [] := by
  unfold upsert
  refine (Task.always_ask_bind _).mpr ⟨.fetch, fun found => ?_, fun e => .unread e⟩
  cases found with
  | none =>
    refine (Task.always_lift_bind _ _).mpr ⟨fun desired hm => ?_, fun failure => .notShaped⟩
    exact (Task.always_ask_bind _).mpr
      ⟨.create hm, fun stored => .created stored hm, fun e => .notCreated e hm⟩
  | some current =>
    refine (Task.always_lift_bind _ _).mpr ⟨fun desired hm => ?_, fun failure => .notReshaped⟩
    by_cases hd : desired = current
    · subst hd
      rw [if_pos rfl]
      exact .unchanged hm
    · rw [if_neg hd]
      exact (Task.always_ask_bind _).mpr
        ⟨.replace hm hd, fun stored => .updated stored hm hd, fun e => .notUpdated e hm hd⟩

end SqlOperator
