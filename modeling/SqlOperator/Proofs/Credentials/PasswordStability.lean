import SqlOperator.Proofs.Credentials.Environment
import SqlOperator.Proofs.Ownership.Exclusive

/-!
# Passwords stay

The password that a user's reconcile puts into a new secret stays in it for as long
as nobody else overwrites the secret: only reconciles of the same user write it,
and they find the password again under whatever prefix is in force by then, since
no prefix leads to an entry with another value.
-/

namespace SqlOperator

namespace Secret

variable {s t : Secret} {password : String}

/-- The secret holds the password under the prefix. -/
def Hands (s : Secret) (envPrefix password : String) : Prop :=
  ∃ data, s.data = some data ∧
    data.get? (Connection.variableName envPrefix "PASSWORD") = some (.ofText password)

theorem Keeps.of_data_eq (h : s.Keeps password) (he : t.data = s.data) : t.Keeps password := by
  obtain ⟨⟨data, hd, hs⟩, hp⟩ := h
  exact ⟨⟨data, he.trans hd, hs⟩, fun data envPrefix hd => hp data envPrefix (he.symm.trans hd)⟩

theorem Hands.of_data_eq {envPrefix : String} (h : s.Hands envPrefix password)
    (he : t.data = s.data) : t.Hands envPrefix password := by
  obtain ⟨data, hd, hp⟩ := h
  exact ⟨data, he.trans hd, hp⟩

end Secret

namespace Job

variable {j : Job} {h : List Exchange} {call : Call} {o : Secret}

/-- What a user's reconcile writes is shaped from a secret without data, or from the
secret that it read. -/
theorem calls_secret_of_user (hu : j.source = .user) (hc : j.Calls h call)
    (hw : call.Writes .secret o) :
    ∃ u access secret presence desired, ⟨.get .user j.key, .ok (some u)⟩ ∈ h ∧
      u.metadata.annotation? Annotation.envVarPrefix = some (User.Access.envPrefix access) ∧
      u.shapeSecret access j.draw.seed secret presence = .ok desired ∧ o.data = desired.data ∧
      (call = .create .secret o ∧ secret.data = none ∨ call = .replace .secret o ∧
        secret.metadata.resourceVersion = o.metadata.resourceVersion ∧
        ∃ target, ⟨.get .secret target, .ok (some secret)⟩ ∈ h) := by
  obtain ⟨source, mount, draw, key⟩ := j
  subst hu
  cases hc with
  | prepare hr => rcases hw with rfl | rfl <;> cases hr
  | upsert hp hc =>
    obtain ⟨u, order, i, rfl, ho, hp⟩ := hp
    obtain ⟨-, host, -, -, rfl⟩ := User.plan_eq_ok.mp hp
    have hasked := (User.order_eq_ok ho).1
    rcases hw with rfl | rfl
    · cases hc with
      | @create desired hd =>
        exact ⟨u, _, _, .new, desired, List.mem_cons_self, hasked, hd, rfl, .inl ⟨rfl, rfl⟩⟩
    · cases hc with
      | @replace current desired hd _ =>
        have hmeta := ((u.shapeSecret_claimsFor _ _).shaped_existing hd).2
        refine ⟨u, _, current, .existing, desired, List.mem_cons_self, hasked, hd, rfl, .inr
          ⟨rfl, ?_, _, List.mem_append_right _ List.mem_cons_self⟩⟩
        exact (congrArg Metadata.resourceVersion hmeta).symm

end Job

namespace System

variable {s : System Job (Except Failure Action)} {i : Nat} {now : Timestamp}
  {p : Process Job (Except Failure Action)} {call : Call} {o : Secret}

/-- The secret under a key belongs to the source of the job and keeps the password. -/
def HoldsPassword (s : System Job (Except Failure Action)) (j : Job) (key : ObjectKey)
    (password : String) : Prop :=
  ∃ secret, s.cluster.stored? .secret key = some secret ∧ j.Owns secret.metadata ∧
    secret.Keeps password

/-- What a user's reconcile writes has one password, also under the prefix that the user
asks for: a new one in a free place, and otherwise the one that was there. -/
theorem Accepts.settles (ha : s.Accepts i now p call) (hw : call.Writes .secret o)
    (hu : p.job.source = .user) (hs : s.Sound Job.Calls Job.Ends) :
    ∃ u envPrefix password, ⟨.get .user p.job.key, .ok (some u)⟩ ∈ p.exchanges ∧
      (User.metadata u).annotation? Annotation.envVarPrefix = some envPrefix ∧
      o.Keeps password ∧ o.Hands envPrefix password ∧
      (s.cluster.stored? .secret (Kind.key .secret o) = none →
        password = p.job.draw.seed.password) ∧
      ∀ before kept, s.cluster.stored? .secret (Kind.key .secret o) = some before →
        Secret.Keeps before kept → kept ≠ "" → password = kept := by
  obtain ⟨u, access, secret, presence, desired, hx, hann, hshape, hdata, hsecret⟩ :=
    Job.calls_secret_of_user hu (ha.calls hs) hw
  obtain ⟨hkeeps, hhands⟩ := User.keeps_of_shapeSecret hshape
  obtain ⟨answer, hr⟩ := ha.exists_answer
  refine ⟨u, _, access.settle p.job.draw.seed secret, hx, hann, hkeeps.of_data_eq hdata,
    Secret.Hands.of_data_eq hhands hdata, ?_⟩
  rcases hsecret with ⟨rfl, hnone⟩ | ⟨rfl, hv, target, hread⟩
  · have hfree := (Cluster.answer_create_ok hr).1
    refine ⟨fun _ => ?_, fun before kept hbefore => ?_⟩
    · simp [User.Access.settle, Secret.password?, hnone]
    · rw [hfree] at hbefore
      cases hbefore
  · obtain ⟨⟨found, hfound, hrv⟩, -, -⟩ := Cluster.answer_replace_ok hr
    have hissued := hs.remembers ha.placed _ hread .secret target secret rfl
    obtain ⟨-, rfl⟩ := hissued.eq_of_resourceVersion_eq hfound (hrv.trans hv.symm)
    refine ⟨fun hfree => ?_, fun before kept hbefore hk hne => ?_⟩
    · rw [hfree] at hfound
      cases hfound
    · obtain rfl := Option.some.inj (hfound.symm.trans hbefore)
      exact User.settle_eq_of_keeps hk hne

/-- No move but one by others that overwrites the secret takes its password away. -/
theorem HoldsPassword.step {j : Job} {key : ObjectKey} {password : String} {move : Move Job}
    (h : s.HoldsPassword j key password) (hj : j.source = .user) (hne : password ≠ "")
    (hs : s.Sound Job.Calls Job.Ends) (hm : ¬ move.Overwrites .secret key) :
    (step Job.program s move).HoldsPassword j key password := by
  obtain ⟨before, hbefore, hown, hkeeps⟩ := h
  rcases stored?_step Job.program hm s with
    hsame | ⟨o, v, now, ho, hstamp⟩ | ⟨i, now, p, call, o, rfl, ha, hw, rfl⟩
  · exact ⟨before, hsame.trans hbefore, hown, hkeeps⟩
  · obtain rfl := Option.some.inj (hbefore.symm.trans ho)
    exact ⟨_, hstamp, hown.stamp v now, hkeeps.of_data_eq rfl⟩
  · obtain ⟨hsource, hname⟩ := Job.source_eq_of_owns hown (ha.owned hw hs hbefore).1
    obtain ⟨u, envPrefix, settled, -, -, hsettled, -, -, hkept⟩ :=
      ha.settles hw (hsource.symm.trans hj) hs
    obtain rfl := hkept before password hbefore hkeeps hne
    refine ⟨_, ha.stored?_step _ hw, ?_, hsettled.of_data_eq rfl⟩
    rw [Job.owns_congr hsource hname]
    exact (ha.owns hw hs).2.stamp _ now

/-- The password of a secret that a user's reconcile creates is the new one of this
reconcile, and it stays whatever reconciles and others do, unless others overwrite
the secret. Under every prefix the secret has this password or none, and after every
write it has the password under the prefix that was in force for the write. -/
theorem password_stays {moves later : List (Move Job)}
    (ha : (reconciling moves).Accepts i now p (.create .secret o))
    (hu : p.job.source = .user)
    (hlater : ∀ move ∈ later, ¬ move.Overwrites .secret (Kind.key .secret o)) :
    (∃ secret, (reconciling (moves ++ .advance i now :: later)).cluster.stored? .secret
        (Kind.key .secret o) = some secret ∧ Secret.Keeps secret p.job.draw.seed.password) ∧
    (∃ u envPrefix, ⟨.get .user p.job.key, .ok (some u)⟩ ∈ p.exchanges ∧
      (User.metadata u).annotation? Annotation.envVarPrefix = some envPrefix ∧
      o.Hands envPrefix p.job.draw.seed.password) ∧
    ∀ j time q call (o' : Secret),
      (reconciling (moves ++ .advance i now :: later)).Accepts j time q call →
      call.Writes .secret o' → Kind.key .secret o' = Kind.key .secret o →
      ∃ u envPrefix secret, ⟨.get .user q.job.key, .ok (some u)⟩ ∈ q.exchanges ∧
        (User.metadata u).annotation? Annotation.envVarPrefix = some envPrefix ∧
        (reconciling (moves ++ .advance i now :: later ++ [.advance j time])).cluster.stored?
          .secret (Kind.key .secret o) = some secret ∧
        Secret.Keeps secret p.job.draw.seed.password ∧
        Secret.Hands secret envPrefix p.job.draw.seed.password := by
  have hne := p.job.draw.seed.password_ne_empty
  have hs := sound_reconciling moves
  have hs' := sound_reconciling (moves ++ .advance i now :: later)
  obtain ⟨u, envPrefix, password, hx, hann, hkeeps, hhands, hnew, -⟩ :=
    ha.settles (.inl rfl) hu hs
  obtain rfl := hnew (ha.created hs).1
  have hwritten : (step Job.program (reconciling moves) (.advance i now)).HoldsPassword p.job
      (Kind.key .secret o) p.job.draw.seed.password :=
    ⟨_, ha.stored?_step _ (.inl rfl), (ha.owns (.inl rfl) hs).2.stamp _ now, hkeeps.of_data_eq rfl⟩
  obtain ⟨before, hbefore, hown, hkept⟩ :=
    after_induction
      (fun s => s.HoldsPassword p.job (Kind.key .secret o) p.job.draw.seed.password)
      Job.program_always (fun hs hm h => h.step hu hne hs hm) hwritten hlater
  refine ⟨⟨before, hbefore, hkept⟩, ⟨u, envPrefix, hx, hann, hhands⟩, ?_⟩
  intro j time q call o' ha' hw' hkey
  rw [← hkey] at hbefore
  have hq := (Job.source_eq_of_owns (ha'.owned hw' hs' hbefore).1 hown).1.trans hu
  obtain ⟨v, asked, settled, hy, hasked, hsettled, hhands', -, hsame⟩ := ha'.settles hw' hq hs'
  obtain rfl := hsame before _ hbefore hkept hne
  rw [reconciling_concat, ← hkey]
  exact ⟨v, asked, _, hy, hasked, ha'.stored?_step _ hw', hsettled.of_data_eq rfl,
    hhands'.of_data_eq rfl⟩

end System

namespace Sample

/-- An instance that is reached over a private network. -/
def privateDatabase : Instance where
  metadata := { name := some "db", «namespace» := some "ns" }
  spec :=
    { settings := { ipConfiguration := some { privateNetworkRef := some { name := "net" } } } }
  status := some { privateAddress := some "10.0.0.1" }

/-- A user of the instance whose variables are under a prefix. -/
def account (envPrefix : String) : User where
  metadata := {
    name := some "app"
    «namespace» := some "ns"
    annotations := some ((SortedMap.empty.insert Annotation.envVarPrefix envPrefix).insert
      Annotation.databaseName "main") }
  spec := {
    instanceRef := { name := "db" }
    password := some { valueFrom := some { secretKeyRef := some {
      name := "app-secret"
      key := Connection.variableName envPrefix "PASSWORD" } } } }

/-- The key of the secret that the user names. -/
def secretKey : ObjectKey := ⟨"ns", "app-secret"⟩

/-- A reconcile of the user. -/
def handOut : Job := ⟨.user, {}, ⟨time, seed⟩, ⟨"ns", "app"⟩⟩

/-- A reconcile is about to create the secret of the user. -/
def handingOut : List (Move Job) :=
  [.intervene (.insert .sqlInstance privateDatabase time),
    .intervene (.insert .user (account "OLD") time), .start handOut,
    .advance 0 time, .advance 0 time, .advance 0 time, .advance 0 time]

/-- The user gets another prefix and a second reconcile reads it. -/
def rekeying : List (Move Job) :=
  [.intervene (.insert .user (account "NEW") time), .start handOut,
    .advance 1 time, .advance 1 time, .advance 1 time, .advance 1 time]

end Sample

namespace System

open Sample

/-- A user's secret keeps its password when the prefix changes. -/
theorem password_stays_under_new_name :
    ∃ p q o o' u envPrefix secret,
      (reconciling handingOut).Accepts 0 time p (.create .secret o) ∧
      (reconciling (handingOut ++ .advance 0 time :: rekeying)).Accepts 1 time q
        (.replace .secret o') ∧
      (User.metadata u).annotation? Annotation.envVarPrefix = some envPrefix ∧
      (reconciling
        (handingOut ++ .advance 0 time :: rekeying ++ [.advance 1 time])).cluster.stored? .secret
        (Kind.key .secret o) = some secret ∧
      Secret.Hands secret envPrefix p.job.draw.seed.password := by
  have hcreate : (reconciling handingOut).accepts 0 time .create .secret secretKey = true := by
    decide +kernel
  have hreplace : (reconciling (handingOut ++ .advance 0 time :: rekeying)).accepts 1 time
      .replace .secret secretKey = true := by
    decide +kernel
  obtain ⟨p, o, ha, ho⟩ := exists_accepts_create hcreate
  obtain ⟨q, o', ha', ho'⟩ := exists_accepts_replace hreplace
  have hlater : ∀ move ∈ rekeying, ¬ move.Overwrites .secret (Kind.key .secret o) := by
    simp [rekeying, Move.Overwrites, Intervention.Overwrites]
  have hu : p.job.source = .user := by
    have hjob : (reconciling handingOut).processes[0]?.map (·.job.source) = some .user := by
      decide +kernel
    rw [ha.placed] at hjob
    exact Option.some.inj hjob
  obtain ⟨-, -, hwrites⟩ := password_stays ha hu hlater
  obtain ⟨u, envPrefix, secret, -, hann, hsecret, -, hhands⟩ :=
    hwrites 1 time q _ o' ha' (.inr rfl) (ho'.trans ho.symm)
  exact ⟨p, q, o, o', u, envPrefix, secret, ha, ha', hann, hsecret, hhands⟩

end System

end SqlOperator
