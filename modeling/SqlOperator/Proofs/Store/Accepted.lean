import SqlOperator.Proofs.Store.Runs

/-!
# Accepted writes

What is stored under a key changes in few ways: a program has a write accepted
there, a race that is armed renews the version of what a program reads, or others
renew it, put something else in its place, or take it away.
-/

namespace SqlOperator

/-- The call whose answer a program waits for. -/
def Program.next? {α : Type} : Program α → Option Call
  | .call c _ => some c
  | .done _ | .log .. => none

theorem Program.eq_call_of_next? {α : Type} {p : Program α} {c : Call} (h : p.next? = some c) :
    ∃ resume, p = .call c resume := by
  cases p with
  | done value => cases h
  | log event next => cases h
  | call d resume =>
    obtain rfl := Option.some.inj h
    exact ⟨resume, rfl⟩

/-- The result of a program that has ended. -/
def Program.result? {α : Type} : Program α → Option α
  | .done value => some value
  | .log .. | .call .. => none

theorem Program.eq_done_of_result? {α : Type} {p : Program α} {value : α}
    (h : p.result? = some value) : p = .done value := by
  cases p with
  | done v => rw [Option.some.inj h]
  | log event next => cases h
  | call c resume => cases h

/-- Others may replace or remove the content under a key by this move. -/
def Move.Overwrites {ι : Type} (kind : Kind) (key : ObjectKey) : Move ι → Prop
  | .start _ | .advance .. => False
  | .intervene act => act.Overwrites kind key

/-- No object has changed, but for the version of one that a race has renewed. -/
def Cluster.SameObjects (c d : Cluster) : Prop :=
  ∀ kind key, d.stored? kind key = c.stored? kind key ∨
    (c.store kind).raceArmed = true ∧ ∃ o v now, c.stored? kind key = some o ∧
      d.stored? kind key = some (kind.stamp o v now)

namespace System

variable {ι α : Type} {program : ι → Program α} {s : System ι α} {i : Nat} {now : Timestamp}
  {p : Process ι α} {call : Call}

/-- The program at a place waits for the answer to a call, and the stores, as they are,
answer it without an error. -/
structure Accepts (s : System ι α) (i : Nat) (now : Timestamp) (p : Process ι α)
    (call : Call) : Prop where
  placed : s.processes[i]? = some p
  waits : p.rest.next? = some call
  answered : (Cluster.answer now call s.cluster).1.isOk = true

/-- Whether the next step at a place is an accepted call of a verb for an object. -/
def accepts (s : System ι α) (i : Nat) (now : Timestamp) (verb : Verb) (kind : Kind)
    (key : ObjectKey) : Bool :=
  match s.processes[i]?.bind (·.rest.next?) with
  | some call =>
    call.verb = verb && call.kind = kind && call.key = key &&
      (Cluster.answer now call s.cluster).1.isOk
  | none => false

theorem exists_accepts {verb : Verb} {kind : Kind} {key : ObjectKey}
    (h : s.accepts i now verb kind key = true) :
    ∃ p call, s.Accepts i now p call ∧ call.verb = verb ∧ call.kind = kind ∧ call.key = key := by
  unfold accepts at h
  cases hc : s.processes[i]?.bind (·.rest.next?) with
  | none => simp [hc] at h
  | some call =>
    obtain ⟨p, hp, hw⟩ := Option.bind_eq_some_iff.mp hc
    simp only [hc, Bool.and_eq_true, decide_eq_true_eq] at h
    obtain ⟨⟨⟨hverb, hkind⟩, hkey⟩, hok⟩ := h
    exact ⟨p, call, ⟨hp, hw, hok⟩, hverb, hkind, hkey⟩

theorem exists_accepts_create {kind : Kind} {key : ObjectKey}
    (h : s.accepts i now .create kind key = true) :
    ∃ p o, s.Accepts i now p (.create kind o) ∧ kind.key o = key := by
  obtain ⟨p, call, ha, hverb, hkind, hkey⟩ := exists_accepts h
  cases call with
  | get k other => cases hverb
  | create k o =>
    cases hkind
    exact ⟨p, o, ha, hkey⟩
  | replace k o => cases hverb

theorem exists_accepts_replace {kind : Kind} {key : ObjectKey}
    (h : s.accepts i now .replace kind key = true) :
    ∃ p o, s.Accepts i now p (.replace kind o) ∧ kind.key o = key := by
  obtain ⟨p, call, ha, hverb, hkind, hkey⟩ := exists_accepts h
  cases call with
  | get k other => cases hverb
  | create k o => cases hverb
  | replace k o =>
    cases hkind
    exact ⟨p, o, ha, hkey⟩

/-- The result of the program at a place, if it has ended. -/
def result? (s : System ι α) (i : Nat) : Option α := s.processes[i]?.bind (·.rest.result?)

theorem exists_process_of_result? {value : α} (h : s.result? i = some value) :
    ∃ p, s.processes[i]? = some p ∧ p.rest = .done value := by
  obtain ⟨p, hp, hr⟩ := Option.bind_eq_some_iff.mp h
  exact ⟨p, hp, Program.eq_done_of_result? hr⟩

theorem Accepts.exists_answer (h : s.Accepts i now p call) :
    ∃ answer, (Cluster.answer now call s.cluster).1 = .ok answer := by
  have ha := h.answered
  cases hr : (Cluster.answer now call s.cluster).1 with
  | ok answer => exact ⟨answer, rfl⟩
  | error e =>
    rw [hr] at ha
    cases ha

theorem Accepts.cluster_step (h : s.Accepts i now p call) :
    (step program s (.advance i now)).cluster = (Cluster.answer now call s.cluster).2 := by
  obtain ⟨resume, hr⟩ := Program.eq_call_of_next? h.waits
  rw [step_advance_some h.placed, Process.advance_call hr]

variable (program)

/-- An accepted write leaves the written object, with a new version. -/
theorem Accepts.stored?_step {kind : Kind} {o : kind.Object} (h : s.Accepts i now p call)
    (hw : call.Writes kind o) :
    (step program s (.advance i now)).cluster.stored? kind (kind.key o) =
      some (kind.stamp o ((s.cluster.store kind).versions + 1) now) := by
  obtain ⟨answer, ha⟩ := h.exists_answer
  rw [h.cluster_step, Cluster.answer_write_ok hw ha, Cluster.stored?_setStore_self,
    MemoryStore.get?_write, if_pos rfl]

/-- Everything that advancing a program may do to the content under a key. -/
theorem stored?_step_advance (s : System ι α) (i : Nat) (now : Timestamp) (kind : Kind)
    (key : ObjectKey) :
    (step program s (.advance i now)).cluster.stored? kind key = s.cluster.stored? kind key ∨
    (∃ p call o, s.Accepts i now p call ∧ call.Writes kind o ∧ kind.key o = key ∧
      (step program s (.advance i now)).cluster.stored? kind key =
        some (kind.stamp o ((s.cluster.store kind).versions + 1) now)) ∨
    (∃ o v, (s.cluster.store kind).raceArmed = true ∧ s.cluster.stored? kind key = some o ∧
      (step program s (.advance i now)).cluster.stored? kind key =
        some (kind.stamp o v now)) := by
  rcases step_advance program s i now with
    h | ⟨p, event, next, -, -, h⟩ | ⟨p, call, resume, hp, hr, h⟩
  · exact Or.inl (by rw [h])
  · exact Or.inl (by rw [h])
  · rw [h]
    rcases Cluster.stored?_answer now call s.cluster kind key with
      hs | ⟨o, stored, hw, hk, ha, hs⟩ | ⟨o, -, harmed, ho, hs⟩
    · exact Or.inl hs
    · exact Or.inr (Or.inl ⟨p, call, o, ⟨hp, by rw [hr]; rfl, by rw [ha]; rfl⟩, hw, hk, hs⟩)
    · exact Or.inr (Or.inr ⟨o, _, harmed, ho, hs⟩)

/-- A move that does not overwrite the content under a key leaves it there, up to its
version, unless it has a write of a program accepted. -/
theorem stored?_step {move : Move ι} {kind : Kind} {key : ObjectKey}
    (h : ¬ move.Overwrites kind key) (s : System ι α) :
    (step program s move).cluster.stored? kind key = s.cluster.stored? kind key ∨
    (∃ o v now, s.cluster.stored? kind key = some o ∧
      (step program s move).cluster.stored? kind key = some (kind.stamp o v now)) ∨
    (∃ i now p call o, move = .advance i now ∧ s.Accepts i now p call ∧
      call.Writes kind o ∧ kind.key o = key) := by
  cases move with
  | start job => exact Or.inl rfl
  | intervene act =>
    rcases Intervention.stored?_apply h s.cluster with hs | ⟨o, v, now, ho, hs⟩
    · exact Or.inl hs
    · exact Or.inr (Or.inl ⟨o, v, now, ho, hs⟩)
  | advance i now =>
    rcases stored?_step_advance program s i now kind key with
      hs | ⟨p, call, o, ha, hw, hk, -⟩ | ⟨o, v, -, ho, hs⟩
    · exact Or.inl hs
    · exact Or.inr (Or.inr ⟨i, now, p, call, o, rfl, ha, hw, hk⟩)
    · exact Or.inr (Or.inl ⟨o, v, now, ho, hs⟩)

/-- Advancing a program changes no object unless it has a write accepted. -/
theorem sameObjects_step_advance (s : System ι α) (i : Nat) (now : Timestamp)
    (h : ∀ p call, s.Accepts i now p call → call.isWrite = false) :
    s.cluster.SameObjects (step program s (.advance i now)).cluster := by
  intro kind key
  rcases stored?_step_advance program s i now kind key with
    hs | ⟨p, call, o, ha, hw, -, -⟩ | ⟨o, v, harmed, ho, hs⟩
  · exact Or.inl hs
  · have hread := h p call ha
    rcases hw with rfl | rfl <;> cases hread
  · exact Or.inr ⟨harmed, o, v, now, ho, hs⟩

variable {program}

/-- An accepted call stays among the exchanges of its program. -/
theorem Accepts.exchange_later {moves later : List (Move ι)} {q : Process ι α}
    (h : (after program moves).Accepts i now p call)
    (hq : (after program (moves ++ .advance i now :: later)).processes[i]? = some q) :
    q.job = p.job ∧ ∃ answer, p.exchanges ++ [⟨call, .ok answer⟩] <+: q.exchanges := by
  obtain ⟨answer, ha⟩ := h.exists_answer
  obtain ⟨resume, hr⟩ := Program.eq_call_of_next? h.waits
  have hlt := (List.getElem?_eq_some_iff.mp h.placed).1
  have hnext : (step program (after program moves) (.advance i now)).processes[i]? =
      some (p.answered call resume (.ok answer)) := by
    rw [step_advance_some h.placed, Process.advance_call hr, ha]
    exact List.getElem?_set_self hlt
  obtain ⟨r, hr, hjob, hex, -⟩ := exists_process_foldl program hnext later
  rw [after_append, List.foldl_cons, hr] at hq
  obtain rfl := Option.some.inj hq
  exact ⟨hjob, answer, hex⟩

/-- Every answer that a program got without an error was given by one of the moves. -/
theorem exists_accepts_of_exchange {moves : List (Move ι)}
    (hp : (after program moves).processes[i]? = some p) (earlier : List Exchange)
    {later : List Exchange} {answer : call.Answer}
    (he : p.exchanges = earlier ++ ⟨call, .ok answer⟩ :: later) :
    ∃ before now rest q, moves = before ++ .advance i now :: rest ∧
      (after program before).Accepts i now q call ∧ q.job = p.job ∧ q.exchanges = earlier ∧
      (Cluster.answer now call (after program before).cluster).1 = .ok answer := by
  obtain ⟨before, now, rest, q, resume, hmoves, hq, hjob, hex, hcall, hanswer⟩ :=
    exists_move_of_exchange hp he
  have hnext : q.rest.next? = some call := by
    rw [hcall]
    rfl
  have hok : (Cluster.answer now call (after program before).cluster).1.isOk = true := by
    rw [hanswer]
    rfl
  exact ⟨before, now, rest, q, hmoves, ⟨hq, hnext, hok⟩, hjob, hex, hanswer⟩

/-- A program has a given number of exchanges when at most one of its calls is accepted. -/
theorem Accepts.moves_eq {moves moves' later later' : List (Move ι)} {now' : Timestamp}
    {q : Process ι α} {call' : Call} (h : (after program moves).Accepts i now p call)
    (h' : (after program moves').Accepts i now' q call')
    (heq : moves ++ .advance i now :: later = moves' ++ .advance i now' :: later')
    (hlen : p.exchanges.length = q.exchanges.length) : moves = moves' := by
  rcases List.append_eq_append_iff.mp heq with ⟨between, rfl, hb⟩ | ⟨between, rfl, hb⟩
  · cases between with
    | nil => rw [List.append_nil]
    | cons move rest =>
      obtain ⟨rfl, -⟩ := List.cons.inj hb
      obtain ⟨-, answer, hex⟩ := h.exchange_later h'.placed
      have hle := hex.length_le
      rw [List.length_append, List.length_singleton] at hle
      omega
  · cases between with
    | nil => rw [List.append_nil]
    | cons move rest =>
      obtain ⟨rfl, -⟩ := List.cons.inj hb
      obtain ⟨-, answer, hex⟩ := h'.exchange_later h.placed
      have hle := hex.length_le
      rw [List.length_append, List.length_singleton] at hle
      omega

end System

end SqlOperator
