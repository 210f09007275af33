import SqlOperator.Proofs.Store.Answers

/-!
# Histories of a store

A store in memory is whatever a list of acts has made of the empty one. However the acts
follow each other, every object is under its own key, no two objects share a version, none has
a version beyond the last that was given out, and the store has counted the creations and
replacements that it accepted.

A version that was read tells more than what it belongs to. As long as an object with that
version is stored, nothing was put under its key since it was read, not even the same content
again, for that would have another version.
-/

namespace SqlOperator.MemoryStore

variable {kind : Kind}

/-- What is done to a store. -/
inductive Act (kind : Kind) where
  /-- Another writer puts an object under its own key. -/
  | insert (now : Timestamp) (object : kind.Object)
  | get (now : Timestamp) (key : ObjectKey)
  | create (now : Timestamp) (object : kind.Object)
  | replace (now : Timestamp) (object : kind.Object)
  | armRace

namespace Act

/-- The store after an act. -/
def apply (s : MemoryStore kind) : Act kind → MemoryStore kind
  | .insert now object => s.insert now object
  | .get now key => (s.get now key).2
  | .create now object => (s.create now object).2
  | .replace now object => (s.replace now object).2
  | .armRace => s.armRace

/-- The act is a creation or a replacement that the store accepts. -/
def isAccepted (s : MemoryStore kind) : Act kind → Bool
  | .create now object => (s.create now object).1.isOk
  | .replace now object => (s.replace now object).1.isOk
  | .insert .. | .get .. | .armRace => false

/-- The act puts an object down under the key, or sets off a race there. -/
def Disturbs (s : MemoryStore kind) (key : ObjectKey) : Act kind → Prop
  | .insert _ object => kind.key object = key
  | .get _ other => other = key ∧ s.raceArmed = true
  | .create now object => kind.key object = key ∧ (s.create now object).1.isOk = true
  | .replace now object => kind.key object = key ∧ (s.replace now object).1.isOk = true
  | .armRace => False

variable {s : MemoryStore kind}

theorem consistent_apply (h : s.Consistent) (act : Act kind) : (act.apply s).Consistent := by
  cases act with
  | insert now object => exact h.put now rfl
  | get now key => exact h.get now key
  | create now object => exact h.create now object
  | replace now object => exact h.replace now object
  | armRace => exact h.of_objects_eq rfl rfl

theorem evolves_apply (s : MemoryStore kind) (act : Act kind) : s.Evolves (act.apply s) := by
  cases act with
  | insert now object => exact .put s now _ object
  | get now key => exact .get s now key
  | create now object => exact .create s now object
  | replace now object => exact .replace s now object
  | armRace => exact .of_objects_eq rfl rfl

theorem writes_get (s : MemoryStore kind) (now : Timestamp) (key : ObjectKey) :
    (s.get now key).2.writes = s.writes := by
  rw [get_eq]
  cases s.raceArmed with
  | false => rfl
  | true =>
    cases s.objects.get? key with
    | none => rfl
    | some o => rfl

/-- A store counts the creations and replacements that it accepts, and nothing else. -/
theorem writes_apply (s : MemoryStore kind) (act : Act kind) :
    (act.apply s).writes = s.writes + if act.isAccepted s then 1 else 0 := by
  cases act with
  | insert now object => rfl
  | get now key => exact writes_get s now key
  | create now object =>
    rcases s.create_cases now object with ⟨-, h⟩ | ⟨e, h⟩
    · rw [apply, isAccepted, h]
      rfl
    · rw [apply, isAccepted, h]
      rfl
  | replace now object =>
    rcases s.replace_cases now object with ⟨before, -, -, h⟩ | ⟨e, h⟩
    · rw [apply, isAccepted, h]
      rfl
    · rw [apply, isAccepted, h]
      rfl
  | armRace => rfl

/-- After an act that disturbs a key where something is stored, what is stored there is new. -/
theorem Disturbs.exists_stamp {key : ObjectKey} {act : Act kind} (h : act.Disturbs s key)
    (hstored : (s.objects.get? key).isSome) :
    ∃ o now, (act.apply s).objects.get? key = some (kind.stamp o (s.versions + 1) now) := by
  cases act with
  | insert now object =>
    obtain rfl : kind.key object = key := h
    exact ⟨object, now, (get?_put ..).trans (if_pos rfl)⟩
  | get now other =>
    obtain ⟨rfl, harmed⟩ := h
    obtain ⟨o, ho⟩ := Option.isSome_iff_exists.mp hstored
    refine ⟨o, now, (get?_get ..).trans ?_⟩
    rw [if_pos ⟨harmed, rfl⟩, ho]
    rfl
  | create now object =>
    obtain ⟨rfl, haccepted⟩ := h
    rcases s.create_cases now object with ⟨-, hs⟩ | ⟨e, hs⟩
    · refine ⟨object, now, ?_⟩
      rw [apply, hs, get?_write, if_pos rfl]
    · rw [hs] at haccepted
      cases haccepted
  | replace now object =>
    obtain ⟨rfl, haccepted⟩ := h
    rcases s.replace_cases now object with ⟨before, -, -, hs⟩ | ⟨e, hs⟩
    · refine ⟨object, now, ?_⟩
      rw [apply, hs, get?_write, if_pos rfl]
    · rw [hs] at haccepted
      cases haccepted
  | armRace => cases h

end Act

/-- The store after acts on a store. -/
def afterFrom (s : MemoryStore kind) (acts : List (Act kind)) : MemoryStore kind :=
  acts.foldl (fun s act => act.apply s) s

/-- The store after acts on the empty one. -/
def after (acts : List (Act kind)) : MemoryStore kind := afterFrom {} acts

/-- The number of creations and replacements among acts that are accepted. -/
def acceptedFrom (s : MemoryStore kind) : List (Act kind) → Nat
  | [] => 0
  | act :: rest => (if act.isAccepted s then 1 else 0) + acceptedFrom (act.apply s) rest

theorem after_append (acts later : List (Act kind)) :
    after (acts ++ later) = (after acts).afterFrom later :=
  List.foldl_append

variable {s : MemoryStore kind}

theorem consistent_afterFrom (h : s.Consistent) (acts : List (Act kind)) :
    (s.afterFrom acts).Consistent := by
  induction acts generalizing s with
  | nil => exact h
  | cons act rest ih => exact ih (act.consistent_apply h)

theorem consistent_empty : ({} : MemoryStore kind).Consistent where
  filed h := nomatch h
  versioned h := nomatch h
  distinct h := nomatch h

theorem consistent_after (acts : List (Act kind)) : (after acts).Consistent :=
  consistent_afterFrom consistent_empty acts

theorem evolves_afterFrom (s : MemoryStore kind) (acts : List (Act kind)) :
    s.Evolves (s.afterFrom acts) := by
  induction acts generalizing s with
  | nil => exact .refl s
  | cons act rest ih => exact (act.evolves_apply s).trans (ih _)

/-- The counter of writes tells how many of the acts were accepted. -/
theorem writes_afterFrom (s : MemoryStore kind) (acts : List (Act kind)) :
    (s.afterFrom acts).writes = s.writes + s.acceptedFrom acts := by
  induction acts generalizing s with
  | nil => rfl
  | cons act rest ih =>
    rw [acceptedFrom, ← Nat.add_assoc, ← act.writes_apply s]
    exact ih _

/-- Objects under different keys have different versions. -/
theorem Consistent.resourceVersion_ne (h : s.Consistent) {key other : ObjectKey}
    {o p : kind.Object} (ho : s.objects.get? key = some o) (hp : s.objects.get? other = some p)
    (hne : other ≠ key) :
    (kind.metadata p).resourceVersion ≠ (kind.metadata o).resourceVersion :=
  fun he => hne ((h.issued ho).eq_of_resourceVersion_eq hp he).1

/-- What is stored still after an act has not been disturbed by it. -/
theorem Consistent.not_disturbs (h : s.Consistent) {key : ObjectKey} {o : kind.Object}
    {act : Act kind} (ho : s.objects.get? key = some o)
    (hafter : (act.apply s).objects.get? key = some o) : ¬act.Disturbs s key := by
  intro hdisturbs
  obtain ⟨p, now, hp⟩ := hdisturbs.exists_stamp (by rw [ho]; rfl)
  obtain ⟨v, hle, hv⟩ := h.versioned ho
  have hstamp : o = kind.stamp p (s.versions + 1) now := Option.some.inj (hafter.symm.trans hp)
  have heq := hv.unique (hstamp ▸ kind.hasVersion_stamp p (s.versions + 1) now)
  omega

/-- Whatever is stored with a version that was read is what was read, under the same key, and
none of the acts since then has disturbed it. -/
theorem Consistent.undisturbed (h : s.Consistent) {key other : ObjectKey} {o p : kind.Object}
    (ho : s.objects.get? key = some o) (acts : List (Act kind))
    (hp : (s.afterFrom acts).objects.get? other = some p)
    (hversion : (kind.metadata p).resourceVersion = (kind.metadata o).resourceVersion) :
    other = key ∧ p = o ∧
      ∀ earlier act later, acts = earlier ++ act :: later →
        ¬act.Disturbs (s.afterFrom earlier) key := by
  have hissued := h.issued ho
  obtain ⟨rfl, rfl⟩ :=
    (hissued.evolves (evolves_afterFrom s acts)).eq_of_resourceVersion_eq hp hversion
  refine ⟨rfl, rfl, ?_⟩
  rintro earlier act later rfl
  -- The object has been there at every point in between.
  have hthen : ∀ between rest, earlier ++ act :: later = between ++ rest →
      (s.afterFrom between).objects.get? other = some p := by
    intro between rest heq
    refine Evolves.stored_before (hissued.evolves (evolves_afterFrom s between))
      (evolves_afterFrom _ rest) ?_
    rwa [afterFrom, afterFrom, ← List.foldl_append, ← heq]
  have hbefore := hthen earlier (act :: later) rfl
  have hnext := hthen (earlier ++ [act]) later (by simp)
  rw [afterFrom, List.foldl_append] at hnext
  exact (consistent_afterFrom h earlier).not_disturbs hbefore hnext

end SqlOperator.MemoryStore
