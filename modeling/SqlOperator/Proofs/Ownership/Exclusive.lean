import SqlOperator.Proofs.Ownership.Belonging
import SqlOperator.Proofs.Store.Accepted

/-!
# Targets have one writer

Any number of reconciles run side by side, with each other and with others who
write what they like. The check of a claim is made on a copy that was read
earlier; but a replacement is only accepted with the version of that copy, and
versions identify contents, so the object that is replaced is the one that was
checked. Hence a reconcile changes nothing but what belongs to its own source, and
two sources never write one target unless others interfere.
-/

namespace SqlOperator

theorem Source.eq_of_kind_name_eq {a b : Source} (h : a.kind.name = b.kind.name) : a = b := by
  revert h
  cases a <;> cases b <;> decide

theorem ObjectKey.eq_of_parts {a b : ObjectKey} (hns : a.namespace = b.namespace)
    (hname : a.name = b.name) : a = b := by
  cases a
  cases hns
  cases hname
  rfl

namespace Job

variable {j : Job} {h : List Exchange} {kind : Kind} {o : kind.Object}

/-- The operator manages the object, and its one owner is the source of the job. -/
def Owns (j : Job) (m : Metadata) : Prop :=
  m.BelongsTo {
    apiVersion := j.source.kind.apiVersion
    kind := j.source.kind.name
    name := j.key.name }

/-- The source of a job, as it was read, names itself as the owner. -/
theorem owns_iff_of_key_eq {x : j.source.kind.Object} (hx : j.source.kind.key x = j.key)
    (m : Metadata) : j.Owns m ↔ m.BelongsTo (j.source.kind.ownerReference x) := by
  have hname : (j.source.kind.metadata x).anyName = j.key.name := congrArg ObjectKey.name hx
  constructor
  · rintro ⟨hm, found, hr, ha, hk, hn⟩
    exact ⟨hm, found, hr, ha, hk, hn.trans hname.symm⟩
  · rintro ⟨hm, found, hr, ha, hk, hn⟩
    exact ⟨hm, found, hr, ha, hk, hn.trans hname⟩

/-- Jobs that own one object have the same source, as far as its namespace goes. -/
theorem source_eq_of_owns {j k : Job} {m : Metadata} (hj : j.Owns m) (hk : k.Owns m) :
    j.source = k.source ∧ j.key.name = k.key.name := by
  obtain ⟨-, found, hr, -, hkind, hname⟩ := hj
  obtain ⟨-, other, hr', -, hkind', hname'⟩ := hk
  obtain rfl : found = other := by simpa using hr.symm.trans hr'
  exact ⟨Source.eq_of_kind_name_eq (hkind.symm.trans hkind'), hname.symm.trans hname'⟩

/-- Who owns a target depends on kind and name of the source only. -/
theorem owns_congr {j k : Job} (hs : j.source = k.source) (hn : j.key.name = k.key.name)
    (m : Metadata) : j.Owns m ↔ k.Owns m := by
  rw [Owns, Owns, hs, hn]

/-- What a reconcile creates names the source that it has read as the only owner. -/
theorem calls_create (hc : j.Calls h (.create kind o)) :
    kind = j.source.target ∧ (kind.key o).namespace = j.key.namespace ∧
      ∃ x, ⟨.get j.source.kind j.key, .ok (some x)⟩ ∈ h ∧
        (kind.metadata o).BelongsTo (j.source.kind.ownerReference x) ∧
        (kind.metadata o).ownerReferences = some [j.source.kind.ownerReference x] := by
  cases hc with
  | prepare hr => cases hr
  | upsert hp hu =>
    obtain ⟨x, hx, hns, hshaping⟩ := hp.shaping
    have hm := hshaping.claimsFor
    cases hu with
    | create hd =>
      obtain ⟨hkey, hb, hr⟩ := hm.shaped_new hd
      refine ⟨rfl, ?_, x, List.mem_append_left _ hx, ?_, ?_⟩
      · rw [Kind.key_touch, hkey, hns]
      · rw [Kind.metadata_touch]
        exact hb.touch _
      · rw [Kind.metadata_touch]
        exact hr

/-- What a reconcile replaces belonged to its source when it was read. -/
theorem calls_replace (hc : j.Calls h (.replace kind o)) :
    kind = j.source.target ∧ ∃ x target current,
      ⟨.get j.source.kind j.key, .ok (some x)⟩ ∈ h ∧
      ⟨.get kind target, .ok (some current)⟩ ∈ h ∧ target.namespace = j.key.namespace ∧
      (kind.metadata current).resourceVersion = (kind.metadata o).resourceVersion ∧
      (kind.metadata current).BelongsTo (j.source.kind.ownerReference x) ∧
      (kind.metadata o).BelongsTo (j.source.kind.ownerReference x) := by
  cases hc with
  | prepare hr => cases hr
  | upsert hp hu =>
    obtain ⟨x, hx, hns, hshaping⟩ := hp.shaping
    have hm := hshaping.claimsFor
    cases hu with
    | replace hd _ =>
      obtain ⟨hb, hmeta⟩ := hm.shaped_existing hd
      refine ⟨rfl, x, _, _, List.mem_append_left _ hx,
        List.mem_append_right _ List.mem_cons_self, hns, ?_, hb, ?_⟩
      · rw [Kind.metadata_touch, hmeta]
        rfl
      · rw [Kind.metadata_touch, hmeta]
        exact (hb.inheritFrom _).touch _

end Job

/-- The source of the process's job, as the process has read it. -/
def Process.HasRead (p : Process Job (Except Failure Action))
    (x : p.job.source.kind.Object) : Prop :=
  ⟨.get p.job.source.kind p.job.key, .ok (some x)⟩ ∈ p.exchanges

namespace System

/-- Reconciles and others on one cluster, after these moves. -/
abbrev reconciling (moves : List (Move Job)) : System Job (Except Failure Action) :=
  after Job.program moves

/-- All reconciles of a run do what a reconcile always does. -/
theorem sound_reconciling (moves : List (Move Job)) :
    (reconciling moves).Sound Job.Calls Job.Ends :=
  sound_after Job.program_always moves

theorem reconciling_concat (moves : List (Move Job)) (move : Move Job) :
    reconciling (moves ++ [move]) = step Job.program (reconciling moves) move :=
  after_concat ..

variable {s : System Job (Except Failure Action)} {i : Nat} {now : Timestamp}
  {p : Process Job (Except Failure Action)} {call : Call} {kind : Kind} {o : kind.Object}

theorem Accepts.calls (ha : s.Accepts i now p call) (hs : s.Sound Job.Calls Job.Ends) :
    p.job.Calls p.exchanges call := by
  obtain ⟨resume, hr⟩ := Program.eq_call_of_next? ha.waits
  have h := hs.obeys ha.placed
  rw [hr] at h
  exact h.1

theorem Sound.owns_iff (hs : s.Sound Job.Calls Job.Ends) (hp : s.processes[i]? = some p)
    {x : p.job.source.kind.Object} (hx : p.HasRead x) (m : Metadata) :
    p.job.Owns m ↔ m.BelongsTo (p.job.source.kind.ownerReference x) :=
  Job.owns_iff_of_key_eq (hs.remembers hp _ hx _ _ x rfl).filed m

/-- An accepted creation fills a free place with an object of its source alone. -/
theorem Accepts.created (ha : s.Accepts i now p (.create kind o))
    (hs : s.Sound Job.Calls Job.Ends) :
    s.cluster.stored? kind (kind.key o) = none ∧
      (kind.key o).namespace = p.job.key.namespace ∧ ∃ x, p.HasRead x ∧
        (kind.metadata o).BelongsTo (p.job.source.kind.ownerReference x) ∧
        (kind.metadata o).ownerReferences = some [p.job.source.kind.ownerReference x] := by
  obtain ⟨answer, hr⟩ := ha.exists_answer
  obtain ⟨-, hns, x, hx, hb, ho⟩ := Job.calls_create (ha.calls hs)
  exact ⟨(Cluster.answer_create_ok hr).1, hns, x, hx, hb, ho⟩

/-- An accepted replacement replaces what was read, which belonged to its source. -/
theorem Accepts.replaced (ha : s.Accepts i now p (.replace kind o))
    (hs : s.Sound Job.Calls Job.Ends) :
    (kind.key o).namespace = p.job.key.namespace ∧ ∃ x before, p.HasRead x ∧
      s.cluster.stored? kind (kind.key o) = some before ∧
      (kind.metadata before).BelongsTo (p.job.source.kind.ownerReference x) ∧
      (kind.metadata o).BelongsTo (p.job.source.kind.ownerReference x) := by
  obtain ⟨answer, hr⟩ := ha.exists_answer
  obtain ⟨⟨before, hbefore, hv⟩, -, -⟩ := Cluster.answer_replace_ok hr
  obtain ⟨-, x, target, current, hx, hcur, hns, hrv, hb, ho⟩ := Job.calls_replace (ha.calls hs)
  have hissued := hs.remembers ha.placed _ hcur kind target current rfl
  obtain ⟨htarget, rfl⟩ := hissued.eq_of_resourceVersion_eq hbefore (hv.trans hrv.symm)
  exact ⟨htarget ▸ hns, x, before, hx, hbefore, hb, ho⟩

/-- What a reconcile writes is its own, in the namespace of its source. -/
theorem Accepts.owns (ha : s.Accepts i now p call) (hw : call.Writes kind o)
    (hs : s.Sound Job.Calls Job.Ends) :
    (kind.key o).namespace = p.job.key.namespace ∧ p.job.Owns (kind.metadata o) := by
  rcases hw with rfl | rfl
  · obtain ⟨-, hns, x, hx, hb, -⟩ := ha.created hs
    exact ⟨hns, (hs.owns_iff ha.placed hx _).mpr hb⟩
  · obtain ⟨hns, x, before, hx, -, -, hb⟩ := ha.replaced hs
    exact ⟨hns, (hs.owns_iff ha.placed hx _).mpr hb⟩

/-- What a reconcile overwrites was its own. -/
theorem Accepts.owned (ha : s.Accepts i now p call) (hw : call.Writes kind o)
    (hs : s.Sound Job.Calls Job.Ends) {before : kind.Object}
    (hbefore : s.cluster.stored? kind (kind.key o) = some before) :
    p.job.Owns (kind.metadata before) ∧
      ∃ x, p.HasRead x ∧ (kind.metadata before).BelongsTo (p.job.source.kind.ownerReference x) := by
  rcases hw with rfl | rfl
  · rw [(ha.created hs).1] at hbefore
    cases hbefore
  · obtain ⟨-, x, found, hx, hfound, hb, -⟩ := ha.replaced hs
    obtain rfl := Option.some.inj (hbefore.symm.trans hfound)
    exact ⟨(hs.owns_iff ha.placed hx _).mpr hb, x, hx, hb⟩

/-- The object under a key is there and belongs to the source of the job. -/
def Holds (s : System Job (Except Failure Action)) (j : Job) (kind : Kind)
    (key : ObjectKey) : Prop :=
  ∃ o, s.cluster.stored? kind key = some o ∧ j.Owns (kind.metadata o)

/-- A target stays its source's as long as nobody else overwrites it. -/
theorem Holds.step {j : Job} {key : ObjectKey} {move : Move Job} (h : s.Holds j kind key)
    (hs : s.Sound Job.Calls Job.Ends) (hm : ¬ move.Overwrites kind key) :
    (step Job.program s move).Holds j kind key := by
  obtain ⟨before, hbefore, hown⟩ := h
  rcases stored?_step Job.program hm s with
    hsame | ⟨o, v, now, ho, hstamp⟩ | ⟨i, now, p, call, o, rfl, ha, hw, rfl⟩
  · exact ⟨before, hsame.trans hbefore, hown⟩
  · obtain rfl := Option.some.inj (hbefore.symm.trans ho)
    refine ⟨_, hstamp, ?_⟩
    rw [Kind.metadata_stamp]
    exact hown.stamp v now
  · have hsame := Job.source_eq_of_owns hown (ha.owned hw hs hbefore).1
    refine ⟨_, ha.stored?_step _ hw, ?_⟩
    rw [Kind.metadata_stamp, Job.owns_congr hsame.1 hsame.2]
    exact (ha.owns hw hs).2.stamp _ now

/-- Two sources do not both write a target that nobody else overwrites in between. -/
theorem source_eq_of_accepts {moves later : List (Move Job)} {j : Nat} {time : Timestamp}
    {q : Process Job (Except Failure Action)} {call' : Call} {o' : kind.Object}
    (ha : (reconciling moves).Accepts i now p call) (hw : call.Writes kind o)
    (hlater : ∀ move ∈ later, ¬ move.Overwrites kind (kind.key o))
    (ha' : (reconciling (moves ++ .advance i now :: later)).Accepts j time q call')
    (hw' : call'.Writes kind o') (hkey : kind.key o' = kind.key o) :
    q.job.source = p.job.source ∧ q.job.key = p.job.key := by
  have hs := sound_reconciling moves
  have hs' := sound_reconciling (moves ++ .advance i now :: later)
  have hwritten : (step Job.program (reconciling moves) (.advance i now)).Holds p.job kind
      (kind.key o) := by
    refine ⟨_, ha.stored?_step _ hw, ?_⟩
    rw [Kind.metadata_stamp]
    exact (ha.owns hw hs).2.stamp _ now
  obtain ⟨before, hbefore, hown⟩ :=
    after_induction (fun s => s.Holds p.job kind (kind.key o)) Job.program_always
      (fun hs hm h => h.step hs hm) hwritten hlater
  rw [← hkey] at hbefore
  have hsame := Job.source_eq_of_owns (ha'.owned hw' hs' hbefore).1 hown
  have hns : q.job.key.namespace = p.job.key.namespace := by
    rw [← (ha'.owns hw' hs').1, ← (ha.owns hw hs).1, hkey]
  exact ⟨hsame.1, ObjectKey.eq_of_parts hns hsame.2⟩

/-- Reconciles own what they write, however they and others are interleaved. What a
reconcile replaces belongs to its source before and after; what it creates was not
there, and has its source as the only owner. It changes nothing else, apart from the
race that a `get` may set off; and two sources write one target only if others
overwrite it in between. -/
theorem reconciles_write_their_own (moves : List (Move Job)) (i : Nat) (now : Timestamp) :
    (∀ p kind (o : kind.Object), (reconciling moves).Accepts i now p (.replace kind o) →
      ∃ x before stored, p.HasRead x ∧
        (reconciling moves).cluster.stored? kind (kind.key o) = some before ∧
        (kind.metadata before).BelongsTo (p.job.source.kind.ownerReference x) ∧
        (reconciling (moves ++ [.advance i now])).cluster.stored? kind (kind.key o) =
          some stored ∧
        (kind.metadata stored).BelongsTo (p.job.source.kind.ownerReference x)) ∧
    (∀ p kind (o : kind.Object), (reconciling moves).Accepts i now p (.create kind o) →
      (reconciling moves).cluster.stored? kind (kind.key o) = none ∧
      ∃ x stored, p.HasRead x ∧
        (reconciling (moves ++ [.advance i now])).cluster.stored? kind (kind.key o) =
          some stored ∧
        (kind.metadata stored).label? Label.managedBy = some operatorId ∧
        (kind.metadata stored).ownerReferences = some [p.job.source.kind.ownerReference x]) ∧
    (∀ kind key (before : kind.Object),
      (reconciling moves).cluster.stored? kind key = some before →
      (reconciling (moves ++ [.advance i now])).cluster.stored? kind key = some before ∨
      (∃ p x, (reconciling moves).processes[i]? = some p ∧ p.HasRead x ∧
        (kind.metadata before).BelongsTo (p.job.source.kind.ownerReference x)) ∨
      (((reconciling moves).cluster.store kind).raceArmed = true ∧ ∃ v,
        (reconciling (moves ++ [.advance i now])).cluster.stored? kind key =
          some (kind.stamp before v now))) ∧
    (∀ later j time p q call call' kind (o o' : kind.Object),
      (reconciling moves).Accepts i now p call → call.Writes kind o →
      (∀ move ∈ later, ¬ move.Overwrites kind (kind.key o)) →
      (reconciling (moves ++ .advance i now :: later)).Accepts j time q call' →
      call'.Writes kind o' → kind.key o' = kind.key o →
      q.job.source = p.job.source ∧ q.job.key = p.job.key) := by
  have hs := sound_reconciling moves
  rw [reconciling_concat]
  refine ⟨fun p kind o ha => ?_, fun p kind o ha => ?_, fun kind key before hbefore => ?_, ?_⟩
  · obtain ⟨-, x, before, hx, hbefore, hb, ho⟩ := ha.replaced hs
    refine ⟨x, before, _, hx, hbefore, hb, ha.stored?_step _ (Or.inr rfl), ?_⟩
    rw [Kind.metadata_stamp]
    exact ho.stamp _ now
  · obtain ⟨hfree, -, x, hx, hb, ho⟩ := ha.created hs
    refine ⟨hfree, x, _, hx, ha.stored?_step _ (Or.inl rfl), ?_, ?_⟩
    · rw [Kind.metadata_stamp]
      exact hb.managed
    · rw [Kind.metadata_stamp]
      exact ho
  · rcases stored?_step_advance Job.program (reconciling moves) i now kind key with
      hsame | ⟨p, call, o, ha, hw, rfl, -⟩ | ⟨o, v, harmed, ho, hstamp⟩
    · exact Or.inl (hsame.trans hbefore)
    · obtain ⟨-, x, hx, hb⟩ := ha.owned hw hs hbefore
      exact Or.inr (Or.inl ⟨p, x, ha.placed, hx, hb⟩)
    · obtain rfl := Option.some.inj (hbefore.symm.trans ho)
      exact Or.inr (Or.inr ⟨harmed, v, hstamp⟩)
  · intro later j time p q call call' kind o o' ha hw hlater ha' hw' hkey
    exact source_eq_of_accepts ha hw hlater ha' hw' hkey

end System

namespace Sample

def time : Timestamp := ⟨0, false⟩

def seed : PasswordSeed := ⟨List.replicate 32 0, rfl⟩

/-- An instance with one address. -/
def database (address : String) : Instance where
  metadata := { name := some "db", «namespace» := some "ns" }
  spec := { resourceId := some "main" }
  status := some { addresses := [{ type := some "PRIMARY", address := some address }] }

/-- The key of the policy that lets traffic to the instance through. -/
def policyKey : ObjectKey := ⟨"ns", "sql-db-main"⟩

/-- A reconcile of the instance. -/
def openPolicy : Job := ⟨.sqlInstance, {}, ⟨time, seed⟩, ⟨"ns", "db"⟩⟩

/-- A reconcile is about to create the policy of the instance. -/
def creating : List (Move Job) :=
  [.intervene (.insert .sqlInstance (database "10.0.0.1") time), .start openPolicy,
    .advance 0 time, .advance 0 time, .advance 0 time]

/-- The instance gets another address and a second reconcile reads it. -/
def rereading : List (Move Job) :=
  [.intervene (.insert .sqlInstance (database "10.0.0.2") time), .start openPolicy,
    .advance 1 time, .advance 1 time, .advance 1 time]

end Sample

namespace System

open Sample

/-- A policy that one reconcile creates and a later one replaces. -/
theorem reconciles_write_policy_of_instance :
    ∃ p q o o' x y stored before, (reconciling creating).Accepts 0 time p (.create .policy o) ∧
      p.HasRead x ∧
      (reconciling (creating ++ [.advance 0 time])).cluster.stored? .policy
        (Kind.key .policy o) = some stored ∧
      (Kind.metadata .policy stored).ownerReferences =
        some [p.job.source.kind.ownerReference x] ∧
      (reconciling (creating ++ .advance 0 time :: rereading)).Accepts 1 time q
        (.replace .policy o') ∧
      q.HasRead y ∧
      (Kind.metadata .policy before).BelongsTo (q.job.source.kind.ownerReference y) ∧
      q.job.source = p.job.source ∧ q.job.key = p.job.key := by
  have hcreate : (reconciling creating).accepts 0 time .create .policy policyKey = true := by
    decide +kernel
  have hreplace : (reconciling (creating ++ .advance 0 time :: rereading)).accepts 1 time
      .replace .policy policyKey = true := by
    decide +kernel
  obtain ⟨p, o, ha, ho⟩ := exists_accepts_create hcreate
  obtain ⟨q, o', ha', ho'⟩ := exists_accepts_replace hreplace
  obtain ⟨-, hcreated, -, hone⟩ := reconciles_write_their_own creating 0 time
  obtain ⟨hreplaced, -, -, -⟩ :=
    reconciles_write_their_own (creating ++ .advance 0 time :: rereading) 1 time
  obtain ⟨-, x, stored, hx, hstored, -, hr⟩ := hcreated p .policy o ha
  obtain ⟨y, before, -, hy, -, hb, -⟩ := hreplaced q .policy o' ha'
  have hlater : ∀ move ∈ rereading, ¬ move.Overwrites .policy (Kind.key .policy o) := by
    simp [rereading, Move.Overwrites, Intervention.Overwrites]
  have hsame := hone rereading 1 time p q _ _ .policy o o' ha (Or.inl rfl) hlater ha'
    (Or.inr rfl) (ho'.trans ho.symm)
  exact ⟨p, q, o, o', x, y, stored, before, ha, hx, hstored, hr, ha', hy, hb, hsame⟩

end System

end SqlOperator
