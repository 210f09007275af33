import SqlOperator.Proofs.Program.Replay
import SqlOperator.Proofs.Reconcile.Stages

/-!
# What a reconcile comes to

The work on a target has a result: an operation, or a failure of some kind. A
reconcile answers and reports by this result alone, whatever handles its calls, and
neither calls anything more.
-/

namespace SqlOperator

namespace Source

variable {σ : Type} (s : Source) (mount : MountSettings) (draw : Draw) (key : ObjectKey)

/-- The run of a reconcile came to this result: it answered and reported accordingly. -/
structure ComesTo (r : Run σ (Except Failure Action)) (result : Except Failure Operation) :
    Prop where
  answered : r.value = Action.ofResult result
  reported : r.log.getLast? = some (s.report result)

/-- A reconcile is the work on the target, with the report at the end. -/
theorem run_reconcile (handler : Handler σ) (state : σ) :
    (s.reconcile mount draw key).run handler state =
      let t := (s.task mount draw key).run.run handler state
      ⟨Action.ofResult t.value, t.state, t.history ++ [.logged (s.report t.value)]⟩ :=
  Program.run_bind ..

/-- What the work on the target comes to, the reconcile comes to, with the same exchanges
and in the same state. -/
theorem comesTo_run_reconcile (handler : Handler σ) (state : σ) :
    let t := (s.task mount draw key).run.run handler state
    let r := (s.reconcile mount draw key).run handler state
    s.ComesTo r t.value ∧ r.exchanges = t.exchanges ∧ r.state = t.state := by
  intro t r
  have hr : r = ⟨Action.ofResult t.value, t.state, t.history ++ [.logged (s.report t.value)]⟩ :=
    s.run_reconcile mount draw key handler state
  refine ⟨⟨congrArg Run.value hr, ?_⟩, ?_, congrArg Run.state hr⟩
  · rw [hr]
    simp [Run.log]
  · rw [hr]
    simp [Run.exchanges]

variable {s mount draw key}

/-- A report tells what the result is. -/
theorem report_injective {result other : Except Failure Operation}
    (h : s.report result = s.report other) : result = other := by
  cases result with
  | ok op =>
    cases other with
    | ok op' => exact congrArg Except.ok (Event.reconciled.inj h).1
    | error failure =>
      unfold report at h
      cases hk : failure.kind <;> simp [hk] at h
  | error failure =>
    cases other with
    | ok op =>
      unfold report at h
      cases hk : failure.kind <;> simp [hk] at h
    | error failure' =>
      obtain ⟨kind, cause⟩ := failure
      obtain ⟨kind', cause'⟩ := failure'
      unfold report at h
      cases kind <;> cases kind' <;> simp at h <;> simp [h]

theorem ComesTo.unique {σ : Type} {r : Run σ (Except Failure Action)}
    {result other : Except Failure Operation} (h : s.ComesTo r result) (h' : s.ComesTo r other) :
    result = other :=
  report_injective (Option.some.inj (h.reported.symm.trans h'.reported))

/-- What is reported as an operation is one. -/
theorem ComesTo.eq_ok {σ : Type} {r : Run σ (Except Failure Action)}
    {result : Except Failure Operation} {op : Operation} (h : s.ComesTo r result)
    (hr : r.log.getLast? = some (.reconciled op s.target.name)) : result = .ok op :=
  report_injective (Option.some.inj (h.reported.symm.trans hr))

/-- What is read before the target is stored when it is read, and the stores of targets
are left alone. -/
theorem Inputs.stored?_and_store_eq {x : s.kind.Object} {read : List Exchange}
    (hi : Inputs key s x read) {c d : Cluster} {clock : Timestamp} (hr : c.Replays clock read d) :
    c.stored? s.kind key = some x ∧ d.store s.target = c.store s.target := by
  have hok : ∀ e ∈ read, e.answer.isOk = true ∧ e.call.kind ≠ s.target := by
    cases hi <;> simp [Except.isOk, Except.toBool, Call.kind, target]
  refine ⟨?_, (hr.frame fun e he => (hok e he).1).2 _ fun e he => (hok e he).2⟩
  cases hi <;> exact (Cluster.answer_get_ok hr.1).1

/-- What is said of the work on the target for all answers holds of what a reconcile comes
to and of its exchanges. -/
theorem exists_comesTo {calls : List Exchange → Call → Prop}
    {ends : List Exchange → Except Failure Operation → Prop}
    (h : (s.task mount draw key).run.Always calls ends []) (handler : Handler σ) (state : σ) :
    let r := (s.reconcile mount draw key).run handler state
    ∃ result, s.ComesTo r result ∧ ends r.exchanges result := by
  intro r
  obtain ⟨hcomes, hexchanges, -⟩ :=
    comesTo_run_reconcile s mount draw key handler state
  have hends := h.ends_run handler state
  rw [List.nil_append, ← hexchanges] at hends
  exact ⟨_, hcomes, hends⟩

end Source

namespace Session

/-- A reconcile works on the target, reports and counts. -/
theorem reconcile_eq (s : Session) (mount : MountSettings) (draw : Draw) (source : Source)
    (key : ObjectKey) :
    s.reconcile mount draw source key =
      let r := s.run draw.now (source.task mount draw key).run
      let log := r.log ++ [source.report r.value]
      { value := Action.ofResult r.value
        state := ⟨r.state, s.requeues.add source (Requeues.countIn log)⟩
        history := r.history ++ [.logged (source.report r.value)] } := by
  have hrun : s.run draw.now (source.reconcile mount draw key) =
      let r := s.run draw.now (source.task mount draw key).run
      ⟨Action.ofResult r.value, r.state, r.history ++ [.logged (source.report r.value)]⟩ :=
    source.run_reconcile mount draw key (Cluster.answer draw.now) s.cluster
  unfold reconcile
  rw [hrun]
  simp [Run.log]

variable {source : Source} {mount : MountSettings} {draw : Draw} {key : ObjectKey}

/-- The same of a session, whose exchanges lead through its clusters. -/
theorem exists_comesTo {calls : List Exchange → Call → Prop}
    {ends : List Exchange → Except Failure Operation → Prop}
    (h : (source.task mount draw key).run.Always calls ends []) (s : Session) :
    let r := s.reconcile mount draw source key
    ∃ result, source.ComesTo r result ∧ ends r.exchanges result ∧
      s.cluster.Replays draw.now r.exchanges r.state.cluster := by
  intro r
  obtain ⟨result, ⟨hanswered, hreported⟩, hends⟩ :=
    Source.exists_comesTo h (Cluster.answer draw.now) s.cluster
  exact ⟨result, ⟨hanswered, hreported⟩, hends,
    Cluster.replays_run draw.now (source.reconcile mount draw key) s.cluster⟩

/-- A reconcile that reports an operation has done it. -/
theorem ends_of_reported {s : Session} {op : Operation}
    (h : (s.reconcile mount draw source key).log.getLast? =
      some (.reconciled op source.target.name)) :
    ∃ history, source.Ends mount draw key history (.ok op) ∧
      s.cluster.Replays draw.now history (s.reconcile mount draw source key).state.cluster := by
  obtain ⟨result, hcomes, hends, hreplays⟩ :=
    exists_comesTo (Source.task_always source mount draw key) s
  obtain rfl := hcomes.eq_ok h
  exact ⟨_, hends, hreplays⟩

end Session

end SqlOperator
