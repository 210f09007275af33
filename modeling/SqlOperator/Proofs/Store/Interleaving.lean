import SqlOperator.Proofs.Program.Always
import SqlOperator.Proofs.Store.Answers

/-!
# Programs side by side

Any number of programs run on one cluster, each of them one call at a time, in
any order, while others insert, renew and remove objects, arm races and queue
failures. A system is the cluster with the programs that were started; a list of
moves fixes one interleaving.

The main statements hold after every list of moves: the stores are consistent,
and whatever a program has read is known to its store as an issued content.

## Implementation notes

A program is the tree that is left of it and the exchanges it had; it keeps its
place in the list of programs from its start on. Moves that name no program, or
one that has ended, do nothing.
-/

namespace SqlOperator

/-- What others do to a cluster. -/
inductive Intervention where
  /-- Put an object under its key. -/
  | insert (kind : Kind) (object : kind.Object) (now : Timestamp)
  /-- Write an object back as it is. -/
  | renew (kind : Kind) (key : ObjectKey) (now : Timestamp)
  | remove (kind : Kind) (key : ObjectKey)
  | armRace (kind : Kind)
  | fail (failure : QueuedFailure)

namespace MemoryStore

variable {kind : Kind}

/-- Stamp the object under a key anew. -/
def renew (s : MemoryStore kind) (now : Timestamp) (key : ObjectKey) : MemoryStore kind :=
  match s.objects.get? key with
  | some o => (s.put now key o).2
  | none => s

/-- Take the object under a key away. -/
def remove (s : MemoryStore kind) (key : ObjectKey) : MemoryStore kind :=
  { s with objects := s.objects.erase key }

theorem get?_renew (s : MemoryStore kind) (now : Timestamp) (key other : ObjectKey) :
    (s.renew now key).objects.get? other =
      if other = key then
        (s.objects.get? key).map fun o => kind.stamp o (s.versions + 1) now
      else s.objects.get? other := by
  unfold renew
  cases hk : s.objects.get? key with
  | none => by_cases ho : other = key <;> simp [ho, hk]
  | some o => simp [get?_put]

theorem get?_remove (s : MemoryStore kind) (key other : ObjectKey) :
    (s.remove key).objects.get? other =
      if other = key then none else s.objects.get? other := by
  by_cases ho : other = key
  · rw [if_pos ho, ho, remove, SortedMap.get?_erase_self]
  · rw [if_neg ho, remove, SortedMap.get?_erase_of_ne _ ho]

theorem Evolves.renew (s : MemoryStore kind) (now : Timestamp) (key : ObjectKey) :
    s.Evolves (s.renew now key) := by
  unfold MemoryStore.renew
  cases s.objects.get? key with
  | none => exact .refl s
  | some o => exact .put s now key o

theorem Consistent.renew {s : MemoryStore kind} (h : s.Consistent) (now : Timestamp)
    (key : ObjectKey) : (s.renew now key).Consistent := by
  unfold MemoryStore.renew
  cases hk : s.objects.get? key with
  | none => exact h
  | some o => exact h.put now (h.filed hk)

theorem stored_of_remove {s : MemoryStore kind} {key other : ObjectKey} {o : kind.Object}
    (h : (s.remove key).objects.get? other = some o) : s.objects.get? other = some o := by
  rw [get?_remove] at h
  split at h
  · cases h
  · exact h

theorem Evolves.remove (s : MemoryStore kind) (key : ObjectKey) : s.Evolves (s.remove key) :=
  ⟨Nat.le_refl _, fun h => Or.inl (stored_of_remove h)⟩

theorem Consistent.remove {s : MemoryStore kind} (h : s.Consistent) (key : ObjectKey) :
    (s.remove key).Consistent := by
  constructor
  · intro other o ho
    exact h.filed (stored_of_remove ho)
  · intro other o ho
    exact h.versioned (stored_of_remove ho)
  · intro a b o p v ho hp
    exact h.distinct (stored_of_remove ho) (stored_of_remove hp)

end MemoryStore

namespace Intervention

/-- The cluster after someone else has acted on it. -/
def apply : Intervention → Cluster → Cluster
  | .insert kind object now, c => c.setStore kind ((c.store kind).insert now object)
  | .renew kind key now, c => c.setStore kind ((c.store kind).renew now key)
  | .remove kind key, c => c.setStore kind ((c.store kind).remove key)
  | .armRace kind, c => c.setStore kind (c.store kind).armRace
  | .fail failure, c => c.fail failure

/-- The content under a key may be another one, or gone, afterwards. -/
def Overwrites (kind : Kind) (key : ObjectKey) : Intervention → Prop
  | .insert k object _ => k = kind ∧ k.key object = key
  | .remove k other => k = kind ∧ other = key
  | .renew .. | .armRace _ | .fail _ => False

theorem consistent_apply {c : Cluster} (h : c.Consistent) (act : Intervention) :
    (act.apply c).Consistent := by
  cases act with
  | insert kind object now =>
    exact h.setStore (MemoryStore.Consistent.put (h kind) now (o := object) rfl)
  | renew kind key now => exact h.setStore (MemoryStore.Consistent.renew (h kind) now key)
  | remove kind key => exact h.setStore (MemoryStore.Consistent.remove (h kind) key)
  | armRace kind => exact h.setStore ((h kind).of_objects_eq rfl rfl)
  | fail failure => exact h

theorem evolves_apply (c : Cluster) (act : Intervention) : c.Evolves (act.apply c) := by
  cases act with
  | insert kind object now =>
    exact Cluster.Evolves.setStore (MemoryStore.Evolves.put (c.store kind) now _ object)
  | renew kind key now =>
    exact Cluster.Evolves.setStore (MemoryStore.Evolves.renew (c.store kind) now key)
  | remove kind key =>
    exact Cluster.Evolves.setStore (MemoryStore.Evolves.remove (c.store kind) key)
  | armRace kind => exact Cluster.Evolves.setStore (.of_objects_eq rfl rfl)
  | fail failure => exact .refl c

/-- Others who do not overwrite a content leave it in place, with the version of a later
stamp at most. -/
theorem stored?_apply {act : Intervention} {kind : Kind} {key : ObjectKey}
    (h : ¬ act.Overwrites kind key) (c : Cluster) :
    (act.apply c).stored? kind key = c.stored? kind key ∨
    ∃ o v now, c.stored? kind key = some o ∧
      (act.apply c).stored? kind key = some (kind.stamp o v now) := by
  cases act with
  | insert k object now =>
    by_cases hk : kind = k
    · subst hk
      have ho : key ≠ kind.key object := fun he => h ⟨rfl, he.symm⟩
      refine Or.inl ?_
      rw [apply, Cluster.stored?_setStore_self, MemoryStore.insert, MemoryStore.get?_put,
        if_neg ho, Cluster.stored?]
    · exact Or.inl (c.stored?_setStore_of_ne _ hk key)
  | renew k other now =>
    by_cases hk : kind = k
    · subst hk
      rw [apply, Cluster.stored?_setStore_self, MemoryStore.get?_renew]
      by_cases ho : key = other
      · subst ho
        cases hs : (c.store kind).objects.get? key with
        | none => exact Or.inl (by simp [hs, Cluster.stored?])
        | some o => exact Or.inr ⟨o, _, now, hs, by simp; rfl⟩
      · exact Or.inl (by rw [if_neg ho, Cluster.stored?])
    · exact Or.inl (c.stored?_setStore_of_ne _ hk key)
  | remove k other =>
    by_cases hk : kind = k
    · subst hk
      have ho : key ≠ other := fun he => h ⟨rfl, he.symm⟩
      refine Or.inl ?_
      rw [apply, Cluster.stored?_setStore_self, MemoryStore.get?_remove, if_neg ho,
        Cluster.stored?]
    · exact Or.inl (c.stored?_setStore_of_ne _ hk key)
  | armRace k =>
    by_cases hk : kind = k
    · subst hk
      exact Or.inl (c.stored?_setStore_self ..)
    · exact Or.inl (c.stored?_setStore_of_ne _ hk key)
  | fail failure => exact Or.inl rfl

end Intervention

/-- A program on its way. -/
structure Process (ι α : Type) where
  /-- What was started. -/
  job : ι
  /-- What is left to do. -/
  rest : Program α
  /-- The calls so far and their answers, in order. -/
  exchanges : List Exchange := []

/-- Do the next step of a program: log, or have a call answered. -/
def Process.advance {ι α : Type} (p : Process ι α) (now : Timestamp) (c : Cluster) :
    Process ι α × Cluster :=
  match p.rest with
  | .done _ => (p, c)
  | .log _ next => ({ p with rest := next }, c)
  | .call call resume =>
    let (answer, c) := Cluster.answer now call c
    ({ p with rest := resume answer, exchanges := p.exchanges ++ [⟨call, answer⟩] }, c)

/-- Programs that run side by side on a cluster. -/
structure System (ι α : Type) where
  cluster : Cluster := {}
  /-- The programs in the order of their starts. -/
  processes : List (Process ι α) := []

/-- One step of an interleaving. -/
inductive Move (ι : Type) where
  | start (job : ι)
  /-- The next step of a program, at a time of the store's clock. -/
  | advance (index : Nat) (now : Timestamp)
  | intervene (act : Intervention)

namespace System

variable {ι α : Type} (program : ι → Program α)

/-- A program starts, or does its next step, or someone else acts. An index that no program has does
nothing. -/
def step (s : System ι α) : Move ι → System ι α
  | .start job => { s with processes := s.processes ++ [{ job, rest := program job }] }
  | .advance index now =>
    match s.processes[index]? with
    | some p =>
      let (p, cluster) := p.advance now s.cluster
      { cluster, processes := s.processes.set index p }
    | none => s
  | .intervene act => { s with cluster := act.apply s.cluster }

/-- The system after these moves, from an empty cluster without programs. -/
def after (moves : List (Move ι)) : System ι α := moves.foldl (step program) {}

theorem after_append (moves later : List (Move ι)) :
    after program (moves ++ later) = later.foldl (step program) (after program moves) :=
  List.foldl_append

theorem after_concat (moves : List (Move ι)) (move : Move ι) :
    after program (moves ++ [move]) = step program (after program moves) move := by
  rw [after_append, List.foldl_cons, List.foldl_nil]

end System

end SqlOperator
