import SqlOperator.Proofs.Store.Accepted
import SqlOperator.Proofs.Upsert.Stages

/-!
# Upserts are serializable

An upsert reads its target in one step and writes it in a later one, with anything
in between. Whenever it succeeds it might as well have done both at once when it
wrote: versions identify contents, so what an accepted write replaces is what the
upsert has read, and it was there all the time.
-/

namespace SqlOperator

/-- Both are about the same target in the same version. -/
structure Metadata.SameTarget (m n : Metadata) : Prop where
  name : m.name = n.name
  «namespace» : m.namespace = n.namespace
  resourceVersion : m.resourceVersion = n.resourceVersion

/-- Create the target under `key` or update it, all in one step of its store. -/
def MemoryStore.upsert {kind : Kind} (s : MemoryStore kind) (clock now : Timestamp)
    (key : ObjectKey) (mutate : Mutation kind) : Except Failure Operation × MemoryStore kind :=
  match s.objects.get? key with
  | none =>
    match mutate (kind.blank key) .new with
    | .ok desired => (.ok .created, s.write clock (kind.touch desired now))
    | .error failure => (.error failure, s)
  | some current =>
    match mutate current .existing with
    | .ok desired =>
      if desired = current then (.ok .unchanged, s)
      else (.ok .updated, s.write clock (kind.touch desired now))
    | .error failure => (.error failure, s)

/-- An upsert to be started, with a mutation that leaves the target's name, namespace and
version as it finds them. -/
structure UpsertJob where
  kind : Kind
  key : ObjectKey
  now : Timestamp
  mutate : Mutation kind
  keeps : ∀ {o presence desired}, mutate o presence = .ok desired →
    (kind.metadata desired).SameTarget (kind.metadata o)

namespace UpsertJob

/-- The upsert as it runs, with other programs between its calls. -/
def program (j : UpsertJob) : Program (Except Failure Operation) :=
  (upsert j.now j.kind j.key j.mutate).run

/-- What the target is to become, given what is found under its key. -/
def shape (j : UpsertJob) : Option j.kind.Object → Except Failure j.kind.Object
  | none => j.mutate (j.kind.blank j.key) .new
  | some current => j.mutate current .existing

/-- The whole upsert in one step of a cluster. -/
def atomically (j : UpsertJob) (clock : Timestamp) (c : Cluster) :
    Except Failure Operation × Cluster :=
  let (result, store) := (c.store j.kind).upsert clock j.now j.key j.mutate
  (result, c.setStore j.kind store)

/-- The calls that may come next after these exchanges. -/
def Calls (j : UpsertJob) : List Exchange → Call → Prop := Upsert.Calls j.now j.key j.mutate

/-- The results that the upsert may end in after these exchanges. -/
def Ends (j : UpsertJob) : List Exchange → Except Failure Operation → Prop :=
  Upsert.Ends j.now j.key j.mutate

theorem program_always (j : UpsertJob) : j.program.Always j.Calls j.Ends [] :=
  upsert_always ..

variable {j : UpsertJob} {c : Cluster} {clock : Timestamp} {desired : j.kind.Object}

/-- A new object that a mutation shapes keeps the key that it is for. -/
theorem key_eq_of_new (h : j.mutate (j.kind.blank j.key) .new = .ok desired) :
    j.kind.key desired = j.key := by
  obtain ⟨hname, hns, -⟩ := j.keeps h
  rw [Kind.metadata_blank] at hname hns
  simp [Kind.key, ObjectKey.ofMetadata, Metadata.anyName, hname, hns]

theorem atomically_created (hfree : c.stored? j.kind j.key = none)
    (h : j.mutate (j.kind.blank j.key) .new = .ok desired) :
    j.atomically clock c = (.ok .created,
      c.setStore j.kind ((c.store j.kind).write clock (j.kind.touch desired j.now))) := by
  rw [Cluster.stored?] at hfree
  simp [atomically, MemoryStore.upsert, hfree, h]

theorem atomically_updated {current : j.kind.Object}
    (hstored : c.stored? j.kind j.key = some current)
    (h : j.mutate current .existing = .ok desired) (hne : desired ≠ current) :
    j.atomically clock c = (.ok .updated,
      c.setStore j.kind ((c.store j.kind).write clock (j.kind.touch desired j.now))) := by
  rw [Cluster.stored?] at hstored
  simp [atomically, MemoryStore.upsert, hstored, h, hne]

end UpsertJob

/-- An upsert has a write accepted only if it ends in telling so. -/
theorem Upsert.Ends.created_or_updated {now : Timestamp} {kind : Kind} {key : ObjectKey}
    {mutate : Mutation kind} {h : List Exchange} {result : Except Failure Operation}
    (he : Upsert.Ends now key mutate h result) {e : Exchange} (hmem : e ∈ h)
    (hw : e.call.isWrite = true) (hok : e.answer.isOk = true) :
    (result = .ok .created ∨ result = .ok .updated) ∧
      ∃ first, h = [first, e] ∧ first.call.isWrite = false := by
  cases he <;> simp only [List.mem_cons, List.not_mem_nil, or_false] at hmem
  case unread => subst hmem; cases hw
  case notShaped => subst hmem; cases hw
  case notReshaped => subst hmem; cases hw
  case unchanged => subst hmem; cases hw
  case notCreated =>
    rcases hmem with rfl | rfl
    · cases hw
    · cases hok
  case notUpdated =>
    rcases hmem with rfl | rfl
    · cases hw
    · cases hok
  case created =>
    rcases hmem with rfl | rfl
    · cases hw
    · exact ⟨.inl rfl, _, rfl, rfl⟩
  case updated =>
    rcases hmem with rfl | rfl
    · cases hw
    · exact ⟨.inr rfl, _, rfl, rfl⟩

namespace System

/-- Upserts and others on one cluster, after these moves. -/
abbrev upserting (moves : List (Move UpsertJob)) : System UpsertJob (Except Failure Operation) :=
  after UpsertJob.program moves

theorem sound_upserting (moves : List (Move UpsertJob)) :
    (upserting moves).Sound UpsertJob.Calls UpsertJob.Ends :=
  sound_after UpsertJob.program_always moves

theorem upserting_concat (moves : List (Move UpsertJob)) (move : Move UpsertJob) :
    upserting (moves ++ [move]) = step UpsertJob.program (upserting moves) move :=
  after_concat ..

variable {moves : List (Move UpsertJob)} {i : Nat}
  {p : Process UpsertJob (Except Failure Operation)} {result : Except Failure Operation}

theorem ends_of_done (hp : (upserting moves).processes[i]? = some p)
    (hr : p.rest = .done result) : p.job.Ends p.exchanges result := by
  have h := (sound_upserting moves).obeys hp
  rw [hr] at h
  exact h

/-- A successful upsert has one step that does all of its work, on the very content that
the upsert has read. -/
theorem exists_write_step (hp : (upserting moves).processes[i]? = some p)
    (hr : p.rest = .done result) (hresult : result = .ok .created ∨ result = .ok .updated) :
    ∃ before clock rest q call found desired, moves = before ++ .advance i clock :: rest ∧
      (upserting before).Accepts i clock q call ∧
      p.job.shape found = .ok desired ∧
      call.Writes p.job.kind (p.job.kind.touch desired p.job.now) ∧
      p.job.kind.key desired = p.job.key ∧
      q.exchanges = [⟨.get p.job.kind p.job.key, .ok found⟩] ∧
      (upserting before).cluster.stored? p.job.kind p.job.key = found ∧
      p.job.atomically clock (upserting before).cluster =
        (result, (step UpsertJob.program (upserting before) (.advance i clock)).cluster) := by
  have hends := ends_of_done hp hr
  generalize hex : p.exchanges = exchanges at hends
  cases hends with
  | unread | notShaped | notCreated | notReshaped | unchanged | notUpdated =>
    rcases hresult with h | h <;> cases h
  | @created desired stored hm =>
    obtain ⟨before, clock, rest, q, rfl, ha, -, hqex, hanswer⟩ :=
      exists_accepts_of_exchange hp [_] hex
    obtain ⟨hfree, -, hwrite⟩ := Cluster.answer_create_ok hanswer
    have hkey := UpsertJob.key_eq_of_new hm
    rw [Kind.key_touch, hkey] at hfree
    refine ⟨before, clock, rest, q, _, none, desired, rfl, ha, hm, .inl rfl, hkey, hqex, hfree, ?_⟩
    rw [UpsertJob.atomically_created hfree hm, ha.cluster_step]
    exact congrArg _ hwrite.symm
  | @updated current desired stored hm hne =>
    obtain ⟨before, clock, rest, q, rfl, ha, -, hqex, hanswer⟩ :=
      exists_accepts_of_exchange hp [_] hex
    obtain ⟨⟨found, hfound, hv⟩, -, hwrite⟩ := Cluster.answer_replace_ok hanswer
    rw [Kind.metadata_touch] at hv
    have hissued := (sound_upserting before).remembers ha.placed _ (hqex ▸ List.mem_cons_self)
      p.job.kind p.job.key current rfl
    -- The version is the one that was read, so the content is the one that was read.
    obtain ⟨hkey, rfl⟩ := hissued.eq_of_resourceVersion_eq hfound
      (hv.trans (p.job.keeps hm).resourceVersion)
    rw [hkey] at hfound
    rw [Kind.key_touch] at hkey
    refine ⟨before, clock, rest, q, _, some found, desired, rfl, ha, hm, .inr rfl, hkey, hqex,
      hfound, ?_⟩
    rw [UpsertJob.atomically_updated hfound hm hne, ha.cluster_step]
    exact congrArg _ hwrite.symm

/-- What an upsert has read, and still finds later, was there at all times in between. -/
theorem stored?_since_read {kind : Kind} {key : ObjectKey} {found : Option kind.Object}
    (hp : (upserting moves).processes[i]? = some p)
    (hex : p.exchanges = [⟨.get kind key, .ok found⟩]) :
    ∃ start time between q, moves = start ++ .advance i time :: between ∧
      (upserting start).Accepts i time q (.get kind key) ∧
      (upserting start).cluster.stored? kind key = found ∧
      ∀ current, found = some current →
        (upserting moves).cluster.stored? kind key = some current →
        ∀ part, part <+: between →
          (upserting (start ++ .advance i time :: part)).cluster.stored? kind key =
            some current := by
  obtain ⟨start, time, between, q, rfl, ha, -, -, hanswer⟩ :=
    exists_accepts_of_exchange hp [] hex
  have hread := (Cluster.answer_get_ok hanswer).1
  refine ⟨start, time, between, q, rfl, ha, hread, ?_⟩
  rintro current rfl hstored part ⟨later, rfl⟩
  have hissued := ((sound_upserting start).consistent kind).issued hread
  have hbefore := evolves_after UpsertJob.program start (.advance i time :: part)
  have hafter := evolves_after UpsertJob.program (start ++ .advance i time :: part) later
  rw [List.append_assoc, List.cons_append] at hafter
  exact (hafter kind).stored_before (hissued.evolves (hbefore kind)) hstored

/-- A write of an upsert is accepted right after its first exchange, and then the upsert
succeeds. -/
theorem write_of_accepts {other later : List (Move UpsertJob)} {time : Timestamp}
    {q : Process UpsertJob (Except Failure Operation)} {call : Call}
    (hp : (upserting (other ++ .advance i time :: later)).processes[i]? = some p)
    (hr : p.rest = .done result) (ha : (upserting other).Accepts i time q call)
    (hw : call.isWrite = true) :
    (result = .ok .created ∨ result = .ok .updated) ∧ q.exchanges.length = 1 := by
  obtain ⟨-, answer, hex⟩ := ha.exchange_later hp
  obtain ⟨hresult, first, htwo, hfirst⟩ := (ends_of_done hp hr).created_or_updated
    (hex.subset (List.mem_append_right _ List.mem_cons_self)) hw rfl
  refine ⟨hresult, ?_⟩
  rw [htwo] at hex
  have hle := hex.length_le
  match hq : q.exchanges with
  | [] =>
    rw [hq] at hex
    have hsame : (⟨call, .ok answer⟩ : Exchange) = first := (List.cons_prefix_cons.mp hex).1
    rw [← hsame, hw] at hfirst
    cases hfirst
  | [_] => rfl
  | _ :: _ :: _ =>
    rw [hq] at hle
    simp at hle

/-- Upserts are serializable and lose no update, however they and others are interleaved.
One that created or updated its target has done so in one step, as if it had read the
target only then; what it replaced was the target from its read up to that step. All
other steps of an upsert, and all steps of one that ends otherwise, change no object. -/
theorem upserts_are_serializable (hp : (upserting moves).processes[i]? = some p)
    (hr : p.rest = .done result) :
    (result = .ok .created ∨ result = .ok .updated →
      ∃ before clock rest desired version, moves = before ++ .advance i clock :: rest ∧
        p.job.atomically clock (upserting before).cluster =
          (result, (upserting (before ++ [.advance i clock])).cluster) ∧
        p.job.shape ((upserting before).cluster.stored? p.job.kind p.job.key) = .ok desired ∧
        (upserting (before ++ [.advance i clock])).cluster.stored? p.job.kind p.job.key =
          some (p.job.kind.stamp (p.job.kind.touch desired p.job.now) version clock) ∧
        (∃ start time between q, before = start ++ .advance i time :: between ∧
          (upserting start).Accepts i time q (.get p.job.kind p.job.key) ∧
          (upserting start).cluster.stored? p.job.kind p.job.key =
            (upserting before).cluster.stored? p.job.kind p.job.key ∧
          ∀ current, (upserting before).cluster.stored? p.job.kind p.job.key = some current →
            ∀ part, part <+: between →
              (upserting (start ++ .advance i time :: part)).cluster.stored? p.job.kind
                p.job.key = some current) ∧
        ∀ other time later, moves = other ++ .advance i time :: later → other ≠ before →
          (upserting other).cluster.SameObjects
            (upserting (other ++ [.advance i time])).cluster) ∧
    (result = .ok .unchanged ∨ (∃ failure, result = .error failure) →
      ∀ other time later, moves = other ++ .advance i time :: later →
        (upserting other).cluster.SameObjects
          (upserting (other ++ [.advance i time])).cluster) := by
  constructor
  · intro hresult
    obtain ⟨before, clock, rest, q, call, found, desired, rfl, ha, hshape, hw, hkey, hex, hfound,
      hatomic⟩ := exists_write_step hp hr hresult
    obtain ⟨start, time, between, r, rfl, hget, hread, hsince⟩ := stored?_since_read ha.placed hex
    have hstored := ha.stored?_step UpsertJob.program hw
    rw [Kind.key_touch, hkey] at hstored
    rw [← upserting_concat] at hatomic hstored
    refine ⟨_, clock, rest, desired, _, rfl, hatomic, hfound ▸ hshape, hstored,
      ⟨start, time, between, r, rfl, hget, hread.trans hfound.symm, fun current hcurrent =>
        hsince current (hfound.symm.trans hcurrent) hcurrent⟩, ?_⟩
    intro other time later hmoves hne
    rw [upserting_concat]
    refine sameObjects_step_advance UpsertJob.program (upserting other) i time fun r call' ha' => ?_
    by_contra hwrite
    rw [Bool.not_eq_false] at hwrite
    have hlen := (write_of_accepts (hmoves ▸ hp) hr ha' hwrite).2
    exact hne (ha'.moves_eq ha hmoves.symm (by rw [hlen, hex]; rfl))
  · rintro hresult other time later rfl
    rw [upserting_concat]
    refine sameObjects_step_advance UpsertJob.program (upserting other) i time fun r call' ha' => ?_
    by_contra hwrite
    rw [Bool.not_eq_false] at hwrite
    rcases hresult with rfl | ⟨failure, rfl⟩ <;>
      rcases (write_of_accepts hp hr ha' hwrite).1 with h | h <;> cases h

end System

namespace Sample

/-- Give a secret a type and leave the rest of it as it is. -/
def retype (type : String) : UpsertJob where
  kind := .secret
  key := ⟨"ns", "shared"⟩
  now := default
  mutate := fun secret _ => .ok { secret with type := some type }
  keeps := fun h => Except.ok.inj h ▸ ⟨rfl, rfl, rfl⟩

/-- Two upserts read one free place before the first of them writes it. -/
def racing : List (Move UpsertJob) :=
  [.start (retype "a"), .start (retype "b"), .advance 0 default, .advance 1 default,
    .advance 0 default, .advance 1 default]

end Sample

namespace System

open Sample

/-- Of two upserts that race for one place the first creates it in one step, and the
second changes nothing. -/
theorem racing_upserts_are_serializable :
    (∃ p before clock rest, (upserting racing).processes[0]? = some p ∧
      racing = before ++ .advance 0 clock :: rest ∧
      p.job.atomically clock (upserting before).cluster =
        (.ok .created, (upserting (before ++ [.advance 0 clock])).cluster)) ∧
    ∀ other time later, racing = other ++ .advance 1 time :: later →
      (upserting other).cluster.SameObjects
        (upserting (other ++ [.advance 1 time])).cluster := by
  have hfirst : (upserting racing).result? 0 = some (.ok .created) := by decide +kernel
  have hsecond : ((upserting racing).result? 1).any (!·.isOk) = true := by decide +kernel
  obtain ⟨p, hp, hr⟩ := exists_process_of_result? hfirst
  obtain ⟨result, hresult, herror⟩ := (Option.any_eq_true ..).mp hsecond
  obtain ⟨q, hq, hr'⟩ := exists_process_of_result? hresult
  obtain ⟨before, clock, rest, -, -, hmoves, hatomic, -⟩ :=
    (upserts_are_serializable hp hr).1 (.inl rfl)
  refine ⟨⟨p, before, clock, rest, hp, hmoves, hatomic⟩, ?_⟩
  cases result with
  | ok operation => cases herror
  | error failure => exact (upserts_are_serializable hq hr').2 (.inr ⟨failure, rfl⟩)

end System

end SqlOperator
