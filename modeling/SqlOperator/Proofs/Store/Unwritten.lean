import SqlOperator.Proofs.Program.Replay
import SqlOperator.Proofs.Store.Accepted

/-!
# Calls that write nothing

Neither a `get` nor a call that fails puts an object down. All that such calls may bring
about, however many there are, is the one race that is armed for a store.
-/

namespace SqlOperator

namespace MemoryStore

variable {kind : Kind} {s t u : MemoryStore kind}

/-- Nothing was put into the store, apart from a race that was armed and took place. -/
def Unwritten (s t : MemoryStore kind) : Prop :=
  t = s ∨ s.raceArmed = true ∧ t.raceArmed = false ∧
    ∀ key, t.objects.get? key = s.objects.get? key ∨
      ∃ o v now, s.objects.get? key = some o ∧ t.objects.get? key = some (kind.stamp o v now)

theorem Unwritten.refl (s : MemoryStore kind) : s.Unwritten s := .inl rfl

/-- A race takes place once. -/
theorem Unwritten.trans (h : s.Unwritten t) (h' : t.Unwritten u) : s.Unwritten u := by
  rcases h with rfl | ⟨harmed, hdone, hobjects⟩
  · exact h'
  · rcases h' with rfl | ⟨hagain, -, -⟩
    · exact .inr ⟨harmed, hdone, hobjects⟩
    · cases hdone.symm.trans hagain

theorem unwritten_get (s : MemoryStore kind) (now : Timestamp) (key : ObjectKey) :
    s.Unwritten (s.get now key).2 := by
  cases harmed : s.raceArmed with
  | false =>
    rw [get_of_not_raceArmed harmed]
    exact .refl s
  | true =>
    refine .inr ⟨harmed, s.raceArmed_get now key, fun other => ?_⟩
    rw [get?_get]
    by_cases ho : other = key
    · subst ho
      rw [if_pos ⟨harmed, rfl⟩]
      cases hs : s.objects.get? other with
      | none => exact .inl rfl
      | some o => exact .inr ⟨o, _, now, rfl, rfl⟩
    · exact .inl (if_neg fun h => ho h.2)

end MemoryStore

/-- The call is none that puts an object down: it is no write, or it failed. -/
def Exchange.Unwritten (e : Exchange) : Prop := e.call.isWrite = false ∨ e.answer.isOk = false

namespace Cluster

variable {c d : Cluster} {now : Timestamp}

theorem unwritten_answer {call : Call}
    (h : (⟨call, (answer now call c).1⟩ : Exchange).Unwritten) (kind : Kind) :
    (c.store kind).Unwritten ((answer now call c).2.store kind) := by
  cases ha : (answer now call c).1 with
  | error e =>
    rw [answer_error ha]
    exact .refl _
  | ok stored =>
    rw [ha] at h
    cases call with
    | get k key =>
      rw [(answer_get_ok ha).2]
      by_cases hk : kind = k
      · subst hk
        rw [store_setStore_self]
        exact MemoryStore.unwritten_get _ now key
      · rw [store_setStore_of_ne c _ hk]
        exact .refl _
    | create k o => rcases h with h | h <;> cases h
    | replace k o => rcases h with h | h <;> cases h

theorem Replays.unwritten {h : List Exchange} (hr : c.Replays now h d)
    (hh : ∀ e ∈ h, e.Unwritten) (kind : Kind) : (c.store kind).Unwritten (d.store kind) := by
  induction h generalizing c with
  | nil =>
    obtain rfl : d = c := hr
    exact .refl _
  | cons e rest ih =>
    obtain ⟨ha, hr⟩ := hr
    obtain ⟨he, hrest⟩ := List.forall_mem_cons.mp hh
    have hfirst : (⟨e.call, (answer now e.call c).1⟩ : Exchange).Unwritten := by
      rw [ha]
      exact he
    exact (unwritten_answer hfirst kind).trans (ih hr hrest)

/-- Calls that write nothing leave all objects as they are, up to a race. -/
theorem Replays.sameObjects {h : List Exchange} (hr : c.Replays now h d)
    (hh : ∀ e ∈ h, e.Unwritten) : c.SameObjects d := by
  intro kind key
  rcases hr.unwritten hh kind with hsame | ⟨harmed, -, hobjects⟩
  · exact .inl (by rw [stored?, hsame, stored?])
  · exact (hobjects key).imp_right fun hraced => ⟨harmed, hraced⟩

end Cluster

end SqlOperator
