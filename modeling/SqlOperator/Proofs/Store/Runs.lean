import Mathlib.Data.List.Induction
import SqlOperator.Proofs.Store.Interleaving

/-!
# What holds along every interleaving

A move is inverted once: it starts a program, does nothing, logs, has one call
answered, or is done by others. From this the stores of a system stay consistent
and only evolve, every program keeps to what is said of it for all answers, and
every object that a program has read stays known to its store.
-/

namespace SqlOperator

namespace Process

variable {ι α : Type} {p : Process ι α}

theorem advance_done {value : α} (h : p.rest = .done value) (now : Timestamp) (c : Cluster) :
    p.advance now c = (p, c) := by
  unfold advance
  rw [h]

theorem advance_log {event : Event} {next : Program α} (h : p.rest = .log event next)
    (now : Timestamp) (c : Cluster) : p.advance now c = ({ p with rest := next }, c) := by
  unfold advance
  rw [h]

/-- The process after its next call was answered. -/
def answered (p : Process ι α) (call : Call)
    (resume : Except StoreError call.Answer → Program α)
    (answer : Except StoreError call.Answer) : Process ι α :=
  { p with rest := resume answer, exchanges := p.exchanges ++ [⟨call, answer⟩] }

theorem advance_call {call : Call} {resume : Except StoreError call.Answer → Program α}
    (h : p.rest = .call call resume) (now : Timestamp) (c : Cluster) :
    p.advance now c =
      (p.answered call resume (Cluster.answer now call c).1, (Cluster.answer now call c).2) := by
  unfold advance
  rw [h]
  rfl

end Process

/-- What a program was told is known to the store that told it. -/
def Cluster.Remembers (c : Cluster) (e : Exchange) : Prop :=
  ∀ kind key o, e = ⟨.get kind key, .ok (some o)⟩ → (c.store kind).Issued key o

theorem Cluster.Remembers.evolves {c d : Cluster} {e : Exchange} (h : c.Remembers e)
    (hd : c.Evolves d) : d.Remembers e :=
  fun kind key o he => (h kind key o he).evolves (hd kind)

/-- An answer is known to the store from the moment on when it was given. -/
theorem Cluster.Consistent.remembers_answer {c : Cluster} (h : c.Consistent) (now : Timestamp)
    (call : Call) :
    (Cluster.answer now call c).2.Remembers ⟨call, (Cluster.answer now call c).1⟩ := by
  intro kind key o he
  have hcall : call = .get kind key := congrArg Exchange.call he
  subst hcall
  have hget : (Cluster.answer now (.get kind key) c).1 = .ok (some o) := by
    simpa using he
  have hs := (Cluster.answer_get_ok hget).1
  exact ((h kind).issued hs).evolves (Cluster.Evolves.answer c now (.get kind key) kind)

namespace System

variable {ι α : Type} {program : ι → Program α} {s : System ι α}

theorem step_advance_none {index : Nat} (h : s.processes[index]? = none) (now : Timestamp) :
    step program s (.advance index now) = s := by
  simp [step, h]

theorem step_advance_some {index : Nat} {p : Process ι α}
    (h : s.processes[index]? = some p) (now : Timestamp) :
    step program s (.advance index now) =
      { cluster := (p.advance now s.cluster).2
        processes := s.processes.set index (p.advance now s.cluster).1 } := by
  simp [step, h]

variable (program)

/-- Everything that advancing a program may come to. -/
theorem step_advance (s : System ι α) (index : Nat) (now : Timestamp) :
    step program s (.advance index now) = s ∨
    (∃ p event next, s.processes[index]? = some p ∧ p.rest = .log event next ∧
      step program s (.advance index now) =
        { s with processes := s.processes.set index { p with rest := next } }) ∨
    (∃ p call resume, s.processes[index]? = some p ∧ p.rest = .call call resume ∧
      step program s (.advance index now) =
        { cluster := (Cluster.answer now call s.cluster).2
          processes := s.processes.set index
            (p.answered call resume (Cluster.answer now call s.cluster).1) }) := by
  cases hp : s.processes[index]? with
  | none => exact Or.inl (step_advance_none hp now)
  | some p =>
    rw [step_advance_some hp]
    cases hr : p.rest with
    | done value =>
      obtain ⟨hlt, rfl⟩ := List.getElem?_eq_some_iff.mp hp
      exact Or.inl (by rw [Process.advance_done hr, List.set_getElem_self])
    | log event next =>
      exact Or.inr (Or.inl ⟨p, event, next, rfl, hr, by rw [Process.advance_log hr]⟩)
    | call call resume =>
      exact Or.inr (Or.inr ⟨p, call, resume, rfl, hr, by rw [Process.advance_call hr]⟩)

theorem evolves_step (s : System ι α) (move : Move ι) :
    s.cluster.Evolves (step program s move).cluster := by
  cases move with
  | start job => exact .refl _
  | advance index now =>
    rcases step_advance program s index now with
      h | ⟨p, event, next, -, -, h⟩ | ⟨p, call, resume, -, -, h⟩
    · rw [h]
      exact .refl _
    · rw [h]
      exact .refl _
    · rw [h]
      exact .answer s.cluster now call
  | intervene act => exact act.evolves_apply s.cluster

/-- Moves only bring newer versions. -/
theorem evolves_foldl (s : System ι α) (moves : List (Move ι)) :
    s.cluster.Evolves (moves.foldl (step program) s).cluster := by
  induction moves generalizing s with
  | nil => exact .refl _
  | cons move rest ih => exact (evolves_step program s move).trans (ih _)

/-- Later moves only let the cluster evolve. -/
theorem evolves_after (moves later : List (Move ι)) :
    (after program moves).cluster.Evolves (after program (moves ++ later)).cluster := by
  rw [after_append]
  exact evolves_foldl program _ later

theorem length_le_step (s : System ι α) (move : Move ι) :
    s.processes.length ≤ (step program s move).processes.length := by
  cases move with
  | start job => simp [step]
  | intervene act => exact Nat.le_refl _
  | advance index now =>
    rcases step_advance program s index now with
      h | ⟨p, event, next, -, -, h⟩ | ⟨p, call, resume, -, -, h⟩ <;> simp [h]

variable {program}

theorem consistent_step (h : s.cluster.Consistent) (move : Move ι) :
    (step program s move).cluster.Consistent := by
  cases move with
  | start job => exact h
  | advance index now =>
    rcases step_advance program s index now with
      hs | ⟨p, event, next, -, -, hs⟩ | ⟨p, call, resume, -, -, hs⟩
    · rw [hs]
      exact h
    · rw [hs]
      exact h
    · rw [hs]
      exact h.answer now call
  | intervene act => exact act.consistent_apply h

/-- What one move does to the program at a place: nothing that is seen in its
exchanges, its start, or the answer to its next call. -/
theorem process_of_step {move : Move ι} {i : Nat} {p : Process ι α}
    (hp : (step program s move).processes[i]? = some p) :
    (∃ q, s.processes[i]? = some q ∧ q.job = p.job ∧ q.exchanges = p.exchanges ∧
      (q.rest = p.rest ∨ ∃ event, q.rest = .log event p.rest)) ∨
    (s.processes[i]? = none ∧ p.rest = program p.job ∧ p.exchanges = []) ∨
    (∃ now q call resume, move = .advance i now ∧ s.processes[i]? = some q ∧
      q.rest = .call call resume ∧
      p = q.answered call resume (Cluster.answer now call s.cluster).1) := by
  cases move with
  | start job =>
    rw [step, List.getElem?_append] at hp
    split at hp
    · exact Or.inl ⟨p, hp, rfl, rfl, Or.inl rfl⟩
    · rename_i hlt
      obtain rfl := List.mem_singleton.mp (List.mem_of_getElem? hp)
      exact Or.inr (Or.inl ⟨List.getElem?_eq_none (Nat.le_of_not_lt hlt), rfl, rfl⟩)
  | intervene act => exact Or.inl ⟨p, hp, rfl, rfl, Or.inl rfl⟩
  | advance index now =>
    rcases step_advance program s index now with
      h | ⟨q, event, next, hq, hr, h⟩ | ⟨q, call, resume, hq, hr, h⟩
    · rw [h] at hp
      exact Or.inl ⟨p, hp, rfl, rfl, Or.inl rfl⟩
    · rw [h, List.getElem?_set] at hp
      split at hp
      · rename_i he
        subst he
        obtain ⟨-, rfl⟩ : _ ∧ { q with rest := next } = p := by simpa using hp
        exact Or.inl ⟨q, hq, rfl, rfl, Or.inr ⟨event, hr⟩⟩
      · exact Or.inl ⟨p, hp, rfl, rfl, Or.inl rfl⟩
    · rw [h, List.getElem?_set] at hp
      split at hp
      · rename_i he
        subst he
        obtain ⟨-, rfl⟩ : _ ∧ q.answered call resume _ = p := by simpa using hp
        exact Or.inr (Or.inr ⟨now, q, call, resume, rfl, hq, hr, rfl⟩)
      · exact Or.inl ⟨p, hp, rfl, rfl, Or.inl rfl⟩

variable (program)

/-- A program stays in its place, and one that has ended stays as it is. -/
theorem exists_process_step {i : Nat} {q : Process ι α} (hq : s.processes[i]? = some q)
    (move : Move ι) :
    ∃ p, (step program s move).processes[i]? = some p ∧ p.job = q.job ∧
      q.exchanges <+: p.exchanges ∧
      ∀ value, q.rest = .done value → p.rest = .done value ∧ p.exchanges = q.exchanges := by
  have hlt : i < (step program s move).processes.length :=
    Nat.lt_of_lt_of_le (List.getElem?_eq_some_iff.mp hq).1 (length_le_step program s move)
  have hp := List.getElem?_eq_getElem hlt
  refine ⟨_, hp, ?_⟩
  rcases process_of_step hp with
    ⟨r, hr, hjob, hex, hrest⟩ | ⟨hnone, -, -⟩ | ⟨now, r, call, resume, -, hr, hcall, hp⟩
  · obtain rfl := Option.some.inj (hq.symm.trans hr)
    refine ⟨hjob.symm, hex ▸ List.prefix_refl _, fun value hv => ⟨?_, hex.symm⟩⟩
    rcases hrest with hrest | ⟨event, hrest⟩
    · exact hrest.symm.trans hv
    · rw [hv] at hrest
      cases hrest
  · rw [hq] at hnone
    cases hnone
  · obtain rfl := Option.some.inj (hq.symm.trans hr)
    rw [hp]
    refine ⟨rfl, List.prefix_append .., fun value hv => ?_⟩
    rw [hv] at hcall
    cases hcall

theorem exists_process_foldl {i : Nat} {q : Process ι α} (hq : s.processes[i]? = some q)
    (moves : List (Move ι)) :
    ∃ p, (moves.foldl (step program) s).processes[i]? = some p ∧ p.job = q.job ∧
      q.exchanges <+: p.exchanges ∧
      ∀ value, q.rest = .done value → p.rest = .done value ∧ p.exchanges = q.exchanges := by
  induction moves generalizing s q with
  | nil => exact ⟨q, hq, rfl, List.prefix_refl _, fun value hv => ⟨hv, rfl⟩⟩
  | cons move rest ih =>
    obtain ⟨r, hr, hjob, hex, hdone⟩ := exists_process_step program hq move
    obtain ⟨p, hp, hjob', hex', hdone'⟩ := ih hr
    refine ⟨p, hp, hjob'.trans hjob, hex.trans hex', fun value hv => ?_⟩
    obtain ⟨hv', he⟩ := hdone value hv
    obtain ⟨hv'', he'⟩ := hdone' value hv'
    exact ⟨hv'', he'.trans he⟩

variable {program}

/-- Every exchange of a program was made by one of the moves, when the program had made
the exchanges before it. -/
theorem exists_move_of_exchange {moves : List (Move ι)} {i : Nat} {p : Process ι α}
    (hp : (after program moves).processes[i]? = some p) {earlier later : List Exchange}
    {e : Exchange} (he : p.exchanges = earlier ++ e :: later) :
    ∃ before now rest q resume, moves = before ++ .advance i now :: rest ∧
      (after program before).processes[i]? = some q ∧ q.job = p.job ∧
      q.exchanges = earlier ∧ q.rest = .call e.call resume ∧
      (Cluster.answer now e.call (after program before).cluster).1 = e.answer := by
  induction moves using List.reverseRecOn generalizing p later with
  | nil => cases hp
  | append_singleton moves move ih =>
    rw [after_concat] at hp
    rcases process_of_step hp with
      ⟨q, hq, hjob, hex, -⟩ | ⟨-, -, hnil⟩ | ⟨now, q, call, resume, rfl, hq, hcall, rfl⟩
    · obtain ⟨before, now, rest, r, resume, rfl, hr, hj, hh⟩ := ih hq (hex.trans he)
      exact ⟨before, now, rest ++ [move], r, resume, by simp, hr, hj.trans hjob, hh⟩
    · rw [hnil] at he
      cases earlier <;> cases he
    · change q.exchanges ++ [_] = earlier ++ e :: later at he
      rcases List.eq_nil_or_concat later with rfl | ⟨later, last, rfl⟩
      · -- The exchange that was asked for is the one of this move.
        obtain ⟨hearlier, hlast⟩ := List.append_inj' he rfl
        obtain rfl := List.singleton_inj.mp hlast
        exact ⟨moves, now, [], q, resume, rfl, hq, rfl, hearlier, hcall, rfl⟩
      · rw [List.concat_eq_append, ← List.cons_append, ← List.append_assoc] at he
        have he' := (List.append_inj' he rfl).1
        obtain ⟨before, time, rest, r, resume, rfl, hr, hj, hh⟩ := ih hq he'
        exact ⟨before, time, rest ++ [.advance i now], r, resume, by simp, hr, hj, hh⟩

/-- What holds at every point of an interleaving of programs that keep to `calls` and
`ends`. -/
structure Sound (calls : ι → List Exchange → Call → Prop)
    (ends : ι → List Exchange → α → Prop) (s : System ι α) : Prop where
  consistent : s.cluster.Consistent
  obeys : ∀ {i : Nat} {p : Process ι α}, s.processes[i]? = some p →
    p.rest.Always (calls p.job) (ends p.job) p.exchanges
  remembers : ∀ {i : Nat} {p : Process ι α}, s.processes[i]? = some p →
    ∀ e ∈ p.exchanges, s.cluster.Remembers e

variable {calls : ι → List Exchange → Call → Prop} {ends : ι → List Exchange → α → Prop}

/-- A move keeps all running programs within what they always do. -/
theorem sound_step (hall : ∀ job, (program job).Always (calls job) (ends job) [])
    (h : s.Sound calls ends) (move : Move ι) : (step program s move).Sound calls ends := by
  refine ⟨consistent_step h.consistent move, fun {i p} hp => ?_, fun {i p} hp e he => ?_⟩
  · rcases process_of_step hp with
      ⟨q, hq, hjob, hex, hrest⟩ | ⟨-, hstart, hnil⟩ | ⟨now, q, call, resume, -, hq, hcall, rfl⟩
    · have hobeys := h.obeys hq
      rw [hjob, hex] at hobeys
      rcases hrest with hrest | ⟨event, hrest⟩ <;> rw [hrest] at hobeys
      · exact hobeys
      · exact hobeys
    · rw [hstart, hnil]
      exact hall p.job
    · have hobeys := h.obeys hq
      rw [hcall] at hobeys
      exact hobeys.2 _
  · have hev := evolves_step program s move
    rcases process_of_step hp with
      ⟨q, hq, -, hex, -⟩ | ⟨-, -, hnil⟩ | ⟨now, q, call, resume, rfl, hq, hcall, rfl⟩
    · exact (h.remembers hq e (hex ▸ he)).evolves hev
    · rw [hnil] at he
      cases he
    · rcases List.mem_append.mp he with he | he
      · exact (h.remembers hq e he).evolves hev
      · obtain rfl := List.mem_singleton.mp he
        have hcluster : (step program s (.advance i now)).cluster =
            (Cluster.answer now call s.cluster).2 := by
          rw [step_advance_some hq, Process.advance_call hcall]
        rw [hcluster]
        exact h.consistent.remembers_answer now call

/-- Whatever has happened, the calls and results of all programs are those that they always have. -/
theorem sound_after (hall : ∀ job, (program job).Always (calls job) (ends job) [])
    (moves : List (Move ι)) : (after program moves).Sound calls ends := by
  induction moves using List.reverseRecOn with
  | nil =>
    refine ⟨fun kind => ⟨?_, ?_, ?_⟩, ?_, ?_⟩ <;> intros <;> contradiction
  | append_singleton moves move ih =>
    rw [after_concat]
    exact sound_step hall ih move

/-- What holds after a move, and is preserved by every step whose move is admissible,
holds after any further admissible moves. -/
theorem after_induction (holds : System ι α → Prop) {admits : Move ι → Prop}
    (hall : ∀ job, (program job).Always (calls job) (ends job) [])
    (hstep : ∀ {s : System ι α} {move : Move ι}, s.Sound calls ends → admits move → holds s →
      holds (step program s move))
    {moves later : List (Move ι)} {move : Move ι}
    (h : holds (step program (after program moves) move)) (hlater : ∀ m ∈ later, admits m) :
    holds (after program (moves ++ move :: later)) := by
  induction later using List.reverseRecOn with
  | nil =>
    rw [after_concat]
    exact h
  | append_singleton later last ih =>
    obtain ⟨hinit, hlast⟩ := List.forall_mem_append.mp hlater
    rw [← List.cons_append, ← List.append_assoc, after_concat]
    exact hstep (sound_after hall _) (hlast last List.mem_cons_self) (ih hinit)

end System

end SqlOperator
