import SqlOperator.Proofs.Credentials.Contents
import SqlOperator.Proofs.Credentials.PasswordStability
import SqlOperator.Proofs.Program.Parallel
import SqlOperator.Proofs.Reconcile.Requeueing

/-!
# Passwords do not leak

Two runs of the operator that differ in the random bytes alone cannot be told apart, except
by looking for the password in the secrets it was generated for. What a secret holds is the
environment of one access with the password of either run; whether it has to be changed
depends on the access alone, and the password that it holds is found again in both runs.

## Implementation notes

The relation between the stores of the two runs is a `Likeness`, so all that is left to show
is that the three mutations respect it.
-/

namespace SqlOperator

/-- One secret in two runs: the same one, or one for which either run has drawn a password of
its own, with the environment of the same access. -/
inductive Secret.Counterparts (paths : FilePaths) (drawn : PasswordSeed → PasswordSeed → Prop) :
    Secret → Secret → Prop where
  | same (s : Secret) : Counterparts paths drawn s s
  | generated {s : Secret} {access : User.Access} {seed seed' : PasswordSeed}
      {environment environment' : TextMap} :
      access.paths = paths → drawn seed seed' →
      (access.connection seed.password).environment = .ok environment →
      (access.connection seed'.password).environment = .ok environment' →
      s.data = some (User.secretData environment) →
      Counterparts paths drawn s { s with data := some (User.secretData environment') }

/-- Secrets are alike up to generated passwords, and all other objects if they are equal. -/
def Likeness.upToPasswords (paths : FilePaths) (drawn : PasswordSeed → PasswordSeed → Prop) :
    Likeness where
  Like
    | .certificate | .sqlInstance | .user | .policy => Eq
    | .secret => Secret.Counterparts paths drawn
  refl {kind} o := by
    cases kind with
    | secret => exact .same o
    | _ => rfl
  metadata_eq {kind} o p h := by
    cases kind with
    | secret => cases h <;> rfl
    | _ => cases h; rfl
  withMetadata {kind} o p h m := by
    cases kind with
    | secret =>
      cases h with
      | same => exact .same _
      | generated hpaths hdrawn henv henv' hdata => exact .generated hpaths hdrawn henv henv' hdata
    | _ => cases h; rfl

section Mutations

variable {paths : FilePaths} {drawn : PasswordSeed → PasswordSeed → Prop}

theorem Likeness.eq_of_found {kind : Kind} (hk : kind ≠ .secret) {x y : Option kind.Object}
    (h : (upToPasswords paths drawn).Found kind x y) : x = y := by
  cases h with
  | none => rfl
  | some hop =>
    cases kind with
    | secret => exact absurd rfl hk
    | _ => exact congrArg some hop

theorem Instance.parallel_shapePolicy (i : Instance) (addresses : List String) :
    (i.shapePolicy addresses).Parallel (.upToPasswords paths drawn)
      (i.shapePolicy addresses) := by
  rintro o _ presence rfl
  exact .refl _ fun _ _ => ⟨rfl, Iff.rfl⟩

/-- A secret is what its content is replaced with exactly if it has this content. -/
theorem Secret.with_eq_self_iff (s : Secret) (m : Metadata) (data : SecretData) :
    { s with metadata := m, data := some data, stringData := none } = s ↔
      m = s.metadata ∧ s.stringData = none ∧ s.data = some data := by
  cases s
  simp only [Secret.mk.injEq, true_and, and_true]
  constructor
  · rintro ⟨hm, hdata, hstring⟩
    exact ⟨hm, hstring.symm, hdata.symm⟩
  · rintro ⟨hm, hstring, hdata⟩
    exact ⟨hm, hdata.symm, hstring.symm⟩

/-- A secret that a password was generated for is not taken for that of a certificate. -/
theorem Certificate.parallel_shapeSecret (c : Certificate) {data : SecretData}
    (hdata : data.get? sharedPasswordKey = none) :
    (c.shapeSecret data).Parallel (.upToPasswords paths drawn) (c.shapeSecret data) := by
  have hne : ∀ {access : User.Access} {password : String} {environment : TextMap},
      (access.connection password).environment = .ok environment →
      User.secretData environment ≠ data := by
    rintro access password environment henv rfl
    rw [Connection.get?_secretData_password henv (.inl rfl)] at hdata
    cases hdata
  intro o o' presence h
  cases h with
  | same => exact .refl _ fun d _ => ⟨.same d, Iff.rfl⟩
  | generated hpaths hdrawn henv henv' hold =>
    refine .bind_refl _ fun claimed => .ok ⟨.same _, ?_⟩
    rw [Secret.with_eq_self_iff, Secret.with_eq_self_iff, hold]
    constructor
    · rintro ⟨-, -, hsame⟩
      exact absurd (Option.some.inj hsame) (hne henv)
    · rintro ⟨-, -, hsame⟩
      exact absurd (Option.some.inj hsame) (hne henv')

namespace User

variable {u : User} {access : Access} {seed seed' : PasswordSeed}

/-- Shaping two secrets with one metadata fails in one way, or makes of either the
environment with its own password. -/
theorem paired_shapeSecret (u : User) (access : Access) (seed seed' : PasswordSeed)
    {secret secret' : Secret} (h : secret'.metadata = secret.metadata) (presence : Presence) :
    Paired (fun d d' => ∃ m environment environment',
        (access.connection (access.settle seed secret)).environment = .ok environment ∧
        (access.connection (access.settle seed' secret')).environment = .ok environment' ∧
        d = { secret with
          metadata := m, data := some (secretData environment), stringData := none } ∧
        d' = { secret' with
          metadata := m, data := some (secretData environment'), stringData := none })
      (u.shapeSecret access seed secret presence)
      (u.shapeSecret access seed' secret' presence) := by
  unfold shapeSecret
  rw [h]
  refine .bind_refl _ fun claimed => ?_
  refine Paired.bind ((paired_environment access (access.settle seed secret)
    (access.settle seed' secret')).values.mapError Failure.ofUrl) ?_
  rintro environment environment' ⟨henv, henv'⟩
  exact .ok ⟨_, _, _, henv, henv', rfl, rfl⟩

/-- Secrets of one content in one run have one content in the other run. -/
theorem secretData_eq_of_secretData_eq {access access' : Access}
    {first second first' second' : TextMap} {password password' : String}
    (hfirst : (access.connection password).environment = .ok first)
    (hsecond : (access'.connection password).environment = .ok second)
    (hfirst' : (access.connection password').environment = .ok first')
    (hsecond' : (access'.connection password').environment = .ok second')
    (hpaths : access'.paths = access.paths) (h : secretData first = secretData second) :
    secretData first' = secretData second' := by
  obtain rfl := access_eq_of_secretData_eq hfirst hsecond hpaths h.symm
  rw [Except.ok.inj (hfirst'.symm.trans hsecond')]

/-- A secret without a password is not what any secret is shaped to. -/
theorem data_ne_of_password?_eq_none {secret : Secret} {environment : TextMap}
    (hp : secret.password? access.passwordKey = none)
    (henv : (access.connection seed.password).environment = .ok environment) :
    secret.data ≠ some (secretData environment) := by
  intro hdata
  have hfound := password?_of_keeps (keeps_of_data_eq henv hdata).1 seed.password_ne_empty
    access.envPrefix
  rw [← Access.passwordKey, hp] at hfound
  cases hfound

/-- The secret of a user is shaped with the password that it has, if it has one, and
otherwise with the one that the run has drawn. -/
theorem parallel_shapeSecret (hpaths : access.paths = paths) (hdrawn : drawn seed seed') :
    (u.shapeSecret access seed).Parallel (.upToPasswords paths drawn)
      (u.shapeSecret access seed') := by
  intro o o' presence h
  have hmetadata : Secret.metadata o' = Secret.metadata o :=
    (Likeness.upToPasswords paths drawn).metadata_eq h
  refine (paired_shapeSecret u access seed seed' hmetadata presence).imp ?_
  rintro _ _ ⟨m, environment, environment', henv, henv', rfl, rfl⟩
  cases h with
  | same =>
    cases hp : Secret.password? o access.passwordKey with
    | some password =>
      rw [Access.settle, hp] at henv henv'
      obtain rfl := Except.ok.inj (henv.symm.trans henv')
      exact ⟨.same _, Iff.rfl⟩
    | none =>
      rw [Access.settle, hp] at henv henv'
      refine ⟨.generated hpaths hdrawn henv henv' rfl, ?_⟩
      rw [Secret.with_eq_self_iff, Secret.with_eq_self_iff]
      constructor
      · rintro ⟨-, -, hdata⟩
        exact absurd hdata (data_ne_of_password?_eq_none hp henv)
      · rintro ⟨-, -, hdata⟩
        exact absurd hdata (data_ne_of_password?_eq_none hp henv')
  | @generated access₀ a b environment₀ environment₀' hpaths₀ hdrawn₀ henv₀ henv₀' hdata =>
    rw [settle_eq_of_keeps (keeps_of_data_eq henv₀ hdata).1 a.password_ne_empty] at henv
    rw [settle_eq_of_keeps (keeps_of_data_eq henv₀' rfl).1 b.password_ne_empty] at henv'
    refine ⟨.generated hpaths hdrawn₀ henv henv' rfl, ?_⟩
    rw [Secret.with_eq_self_iff, Secret.with_eq_self_iff, hdata, Option.some.injEq,
      Option.some.injEq]
    refine and_congr_right fun _ => and_congr_right fun _ => ⟨?_, ?_⟩
    · exact secretData_eq_of_secretData_eq henv₀ henv henv₀' henv' (hpaths.trans hpaths₀.symm)
    · exact secretData_eq_of_secretData_eq henv₀' henv' henv₀ henv (hpaths.trans hpaths₀.symm)

end User

end Mutations

section Tasks

variable {paths : FilePaths} {drawn : PasswordSeed → PasswordSeed → Prop}

/-- What is read of sources and instances is the same in both runs. -/
theorem Task.parallel_read {α β : Type} {R : α → β → Prop} (kind : Kind)
    (hk : kind ≠ .secret) (key : ObjectKey) (obstacle : Obstacle) {f : kind.Object → Task α}
    {g : kind.Object → Task β}
    (hfg : ∀ o, Task.Parallel (.upToPasswords paths drawn) R (f o) (g o)) :
    Task.Parallel (.upToPasswords paths drawn) R
      (Task.ask (.get kind key) >>= fun found => Task.require found obstacle >>= f)
      (Task.ask (.get kind key) >>= fun found => Task.require found obstacle >>= g) := by
  refine (Task.parallel_get kind key).bind fun found found' hfound => ?_
  obtain rfl := Likeness.eq_of_found hk hfound
  rw [← Task.lift_required]
  exact Task.parallel_lift_bind _ hfg

theorem Certificate.parallel_plan (c : Certificate) (layout : FileLayout) (ns : String) :
    Paired (Plan.Parallel (.upToPasswords paths drawn)) (c.plan layout ns) (c.plan layout ns) := by
  refine .refl _ fun p hp => ?_
  obtain ⟨name, issued, -, -, rfl⟩ := plan_eq_ok.mp hp
  refine ⟨rfl, rfl, ?_⟩
  rw [mutate_planFor]
  exact c.parallel_shapeSecret (get?_secretData_sharedPasswordKey layout issued _)

theorem Instance.parallel_plan (i : Instance) (ns : String) :
    Paired (Plan.Parallel (.upToPasswords paths drawn)) (i.plan ns) (i.plan ns) := by
  refine .refl _ fun p hp => ?_
  obtain ⟨resourceId, -, -, rfl⟩ := plan_eq_ok.mp hp
  exact ⟨rfl, rfl, i.parallel_shapePolicy _⟩

theorem User.parallel_plan (u : User) {seed seed' : PasswordSeed} (hdrawn : drawn seed seed')
    (ns : String) (o : Order) (i : Instance) :
    Paired (Plan.Parallel (.upToPasswords paths drawn)) (u.plan paths seed ns o i)
      (u.plan paths seed' ns o i) := by
  unfold plan
  cases i.privateNetworkRef?.isNone with
  | true => exact .error _
  | false =>
    refine .bind_refl _ fun host => ?_
    dsimp only
    split
    · exact .ok ⟨rfl, rfl, parallel_shapeSecret rfl hdrawn⟩
    · exact .error _

namespace Source

variable {mount : MountSettings}

theorem parallel_prepare (s : Source) (key : ObjectKey) {seed seed' : PasswordSeed}
    (hdrawn : s = .user → drawn seed seed') :
    Task.Parallel (.upToPasswords mount.paths drawn)
      (Plan.Parallel (.upToPasswords mount.paths drawn)) (s.prepare mount seed key)
      (s.prepare mount seed' key) := by
  cases s with
  | certificate =>
    exact Task.parallel_read .certificate nofun key _ fun c =>
      Task.parallel_lift (c.parallel_plan _ _)
  | sqlInstance =>
    exact Task.parallel_read .sqlInstance nofun key _ fun i =>
      Task.parallel_lift (i.parallel_plan _)
  | user =>
    refine Task.parallel_read .user nofun key _ fun u => ?_
    refine Task.parallel_lift_bind _ fun o => ?_
    exact Task.parallel_read .sqlInstance nofun _ _ fun i =>
      Task.parallel_lift (u.parallel_plan (hdrawn rfl) _ o i)

/-- Two reconciles of a source that differ in the random bytes go side by side. -/
theorem parallel_reconcile_of_drawn (s : Source) (now : Timestamp) (key : ObjectKey)
    {seed seed' : PasswordSeed} (hdrawn : s = .user → drawn seed seed') :
    Program.Parallel (.upToPasswords mount.paths drawn) Eq (s.reconcile mount ⟨now, seed⟩ key)
      (s.reconcile mount ⟨now, seed'⟩ key) := by
  refine parallel_reconcile ?_
  rw [task_eq, task_eq]
  exact (s.parallel_prepare key hdrawn).bind fun _ _ h => h.carryOut now

end Source

end Tasks

namespace Session

/-- The two sessions have alike clusters, and have put sources off equally often. -/
structure Alike (L : Likeness) (s t : Session) : Prop where
  cluster : L.Clusters s.cluster t.cluster
  requeues : t.requeues = s.requeues

/-- The turns are the same but for the random bytes of a request. -/
inductive Turn.SameButSeed : Turn → Turn → Prop where
  | request (source : Source) (now : Timestamp) (seed seed' : PasswordSeed) (key : ObjectKey) :
      SameButSeed (.request source ⟨now, seed⟩ key) (.request source ⟨now, seed'⟩ key)
  | intervene (act : Intervention) : SameButSeed (.intervene act) (.intervene act)

/-- The random bytes of one and the same request for a user, in two runs. -/
def Drawn (turns turns' : List Turn) (seed seed' : PasswordSeed) : Prop :=
  ∃ now key, (.request .user ⟨now, seed⟩ key, .request .user ⟨now, seed'⟩ key) ∈
    turns.zip turns'

/-- What is seen of the requests among the turns: the answer and the log of each. -/
def transcript (mount : MountSettings) (s : Session) :
    List Turn → List (Except Failure Action × List Event)
  | [] => []
  | .request source draw key :: rest =>
    let r := s.reconcile mount draw source key
    (r.value, r.log) :: transcript mount (s.turn mount (.request source draw key)) rest
  | .intervene act :: rest => transcript mount (s.turn mount (.intervene act)) rest

variable {mount : MountSettings} {drawn : PasswordSeed → PasswordSeed → Prop}
  {s t : Session}

theorem Alike.reconcile (h : Alike (.upToPasswords mount.paths drawn) s t) (source : Source)
    (now : Timestamp) (key : ObjectKey) {seed seed' : PasswordSeed}
    (hdrawn : source = .user → drawn seed seed') :
    let r := s.reconcile mount ⟨now, seed⟩ source key
    let r' := t.reconcile mount ⟨now, seed'⟩ source key
    r'.value = r.value ∧ r'.log = r.log ∧
      Alike (.upToPasswords mount.paths drawn) r.state r'.state := by
  intro r r'
  obtain ⟨hvalue, hlog, hstate⟩ :=
    (source.parallel_reconcile_of_drawn now key hdrawn).run now h.cluster
  refine ⟨hvalue.symm, hlog, hstate, ?_⟩
  exact congrArg₂ (fun q log => Requeues.add q source (Requeues.countIn log)) h.requeues hlog

/-- Turns that are the same but for random bytes keep sessions alike and look the same. -/
theorem Alike.foldl {turns turns' : List Turn}
    (h : Alike (.upToPasswords mount.paths drawn) s t)
    (hturns : List.Forall₂ Turn.SameButSeed turns turns')
    (hdrawn : ∀ seed seed', Drawn turns turns' seed seed' → drawn seed seed') :
    transcript mount t turns' = transcript mount s turns ∧
      Alike (.upToPasswords mount.paths drawn) (turns.foldl (turn mount) s)
        (turns'.foldl (turn mount) t) := by
  induction hturns generalizing s t with
  | nil => exact ⟨rfl, h⟩
  | cons hturn _ ih =>
    have hrest := fun seed seed' (hd : Drawn _ _ seed seed') =>
      hdrawn seed seed' (hd.imp fun _ => Exists.imp fun _ => List.mem_cons_of_mem _)
    cases hturn with
    | request source now seed seed' key =>
      have hseeds : source = .user → drawn seed seed' := by
        rintro rfl
        exact hdrawn seed seed' ⟨now, key, List.mem_cons_self⟩
      obtain ⟨hvalue, hlog, hstate⟩ := h.reconcile source now key hseeds
      obtain ⟨htranscript, halike⟩ := ih hstate hrest
      refine ⟨?_, halike⟩
      exact congrArg₂ List.cons (Prod.ext hvalue hlog) htranscript
    | intervene act => exact ih ⟨h.cluster.apply act, h.requeues⟩ hrest

end Session

/-- One secret in two runs, told apart by nothing but a password that was drawn for it: the
secrets are the same, or they have the same entries, and each holds the password that its run
has drawn; all entries but those that may tell the password are the same. -/
inductive Secret.SameButPassword (drawn : PasswordSeed → PasswordSeed → Prop) :
    Secret → Secret → Prop where
  | same (s : Secret) : SameButPassword drawn s s
  | generated {s t : Secret} {data data' : SecretData} (envPrefix : String)
      {seed seed' : PasswordSeed} :
      drawn seed seed' →
      s.data = some data → t = { s with data := some data' } →
      s.Keeps seed.password ∧ s.Hands envPrefix seed.password →
      t.Keeps seed'.password ∧ t.Hands envPrefix seed'.password →
      (∀ name, (data'.get? name).isSome = (data.get? name).isSome) →
      (∀ name, name ≠ Connection.variableName envPrefix "PASSWORD" → name ≠ "PGPASSWORD" →
        name ≠ Connection.variableName envPrefix "URL" →
        name ≠ Connection.variableName envPrefix "JDBC_URL" →
        data'.get? name = data.get? name) →
      SameButPassword drawn s t

theorem Secret.Counterparts.sameButPassword {paths : FilePaths}
    {drawn : PasswordSeed → PasswordSeed → Prop} {s t : Secret}
    (h : s.Counterparts paths drawn t) : s.SameButPassword drawn t := by
  cases h with
  | same => exact .same s
  | @generated access seed seed' environment environment' _ hdrawn henv henv' hdata =>
    refine .generated access.envPrefix hdrawn hdata rfl (User.keeps_of_data_eq henv hdata)
      (User.keeps_of_data_eq henv' rfl)
      (fun name => User.isSome_get?_secretData_eq henv henv' rfl)
      fun name hpassword hshared hurl hjdbcUrl => ?_
    refine User.get?_secretData_eq_of_not_revealing henv henv' rfl ?_
    simp [User.Access.revealing, User.Access.passwordKey, sharedPasswordKey, hpassword, hshared,
      hurl, hjdbcUrl]

namespace Session

/-- Passwords do not leak. Of any session, whatever it has stored, let two runs take the same
turns: the same requests at the same times, the same failures queued, and the same done by
others. If they differ only in the random bytes that requests draw, then both give the same
answers and write the same logs; sources are put off equally often; and the stores are equal,
with all versions and counts, except that a secret may hold a password which was drawn for it,
and the URLs with this password. -/
theorem passwords_do_not_leak (mount : MountSettings) (s : Session) (turns turns' : List Turn)
    (h : List.Forall₂ Turn.SameButSeed turns turns') :
    let one := turns.foldl (turn mount) s
    let two := turns'.foldl (turn mount) s
    transcript mount s turns' = transcript mount s turns ∧
      two.requeues = one.requeues ∧
      two.cluster.failures = one.cluster.failures ∧
      (∀ kind, kind ≠ .secret → two.cluster.store kind = one.cluster.store kind) ∧
      (two.cluster.store .secret).versions = (one.cluster.store .secret).versions ∧
      (two.cluster.store .secret).writes = (one.cluster.store .secret).writes ∧
      (two.cluster.store .secret).raceArmed = (one.cluster.store .secret).raceArmed ∧
      ∀ key, Option.Rel (Secret.SameButPassword (Drawn turns turns'))
        (one.cluster.stored? .secret key) (two.cluster.stored? .secret key) := by
  intro one two
  have hstart : Alike (.upToPasswords mount.paths (Drawn turns turns')) s s :=
    ⟨Likeness.clusters_refl _, rfl⟩
  obtain ⟨htranscript, ⟨hstores, hfailures⟩, hrequeues⟩ := hstart.foldl h fun _ _ => id
  obtain ⟨hobjects, hversions, hwrites, hraceArmed⟩ := hstores .secret
  refine ⟨htranscript, hrequeues, hfailures, fun kind hk => ?_, hversions, hwrites, hraceArmed,
    fun key => ?_⟩
  · exact (hstores kind).eq_of_found fun _ _ => Likeness.eq_of_found hk
  · exact Likeness.Found.rel (hobjects key) fun _ _ => Secret.Counterparts.sameButPassword

end Session

namespace Sample

open Session (Turn)

/-- Random bytes that lead to another password. -/
def otherSeed : PasswordSeed := ⟨List.replicate 32 2, rfl⟩

/-- The secret of a user is created, and changed when the user gets another prefix, after a
write that came too late. -/
def rekeyed (seed : PasswordSeed) : List Turn :=
  [.intervene (.insert .sqlInstance privateDatabase time),
    .intervene (.insert .user (account "OLD") time), .request .user ⟨time, seed⟩ handOut.key,
    .intervene (.insert .user (account "NEW") time), .intervene (.armRace .secret),
    .request .user ⟨time, seed⟩ handOut.key, .request .user ⟨time, seed⟩ handOut.key]

end Sample

namespace Session

open Sample

/-- Two runs that create a secret with passwords of their own, and then keep them. -/
theorem passwords_do_not_leak_of_rekeyed :
    List.Forall₂ Turn.SameButSeed (rekeyed seed) (rekeyed otherSeed) ∧
      (let one := (rekeyed seed).foldl (turn {}) {}
        let two := (rekeyed otherSeed).foldl (turn {}) {}
        transcript {} {} (rekeyed otherSeed) = transcript {} {} (rekeyed seed) ∧
          Option.Rel (Secret.SameButPassword (Drawn (rekeyed seed) (rekeyed otherSeed)))
            (one.cluster.stored? .secret secretKey) (two.cluster.stored? .secret secretKey) ∧
          (one.cluster.stored? .secret secretKey).bind (Secret.password? · sharedPasswordKey) =
            some seed.password ∧
          (two.cluster.stored? .secret secretKey).bind (Secret.password? · sharedPasswordKey) =
            some otherSeed.password) := by
  have hturns : List.Forall₂ Turn.SameButSeed (rekeyed seed) (rekeyed otherSeed) :=
    .cons (.intervene _) <| .cons (.intervene _) <| .cons (.request ..) <|
      .cons (.intervene _) <| .cons (.intervene _) <| .cons (.request ..) <|
      .cons (.request ..) .nil
  obtain ⟨htranscript, -, -, -, -, -, -, hsecrets⟩ :=
    passwords_do_not_leak {} {} (rekeyed seed) (rekeyed otherSeed) hturns
  refine ⟨hturns, htranscript, hsecrets secretKey, ?_, ?_⟩
  · decide +kernel
  · decide +kernel

end Session

end SqlOperator
