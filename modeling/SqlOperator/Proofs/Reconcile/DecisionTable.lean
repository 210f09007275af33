import SqlOperator.Proofs.Credentials.PasswordStability
import SqlOperator.Proofs.Reconcile.Alone

/-!
# Which check decides

The checks of a reconcile stand in a fixed order, and the first of them that fails
decides what the reconcile comes to. The tables `Certificate.checks`,
`Instance.checks` and `User.checks` list the checks of the objects that are looked up;
after them come the checks of the target.

The tables say what is there and what is not in terms of the objects' fields alone. The
main statement ties them to the reconciles, which run alone in a quiet cluster.
-/

namespace SqlOperator

/-- A check, and the kind of failure that it leads to. -/
structure Check where
  fails : Bool
  kind : FailureKind

namespace Check

/-- The kind of failure that the first failing check leads to. -/
def firstFailure? (checks : List Check) : Option FailureKind :=
  (checks.find? (·.fails)).map (·.kind)

/-- The result fails as the first failing check does, and is a value if none fails. -/
def Decides {α : Type} (checks : List Check) (result : Except Failure α) : Prop :=
  match firstFailure? checks with
  | some kind => ∃ failure, result = .error failure ∧ failure.kind = kind
  | none => ∃ a, result = .ok a

variable {α β ε : Type} {check : Check} {rest : List Check}

theorem decides_nil (a : α) : Decides [] (.ok a) := ⟨a, rfl⟩

theorem decides_cons_of_fails {failure : Failure} (hfails : check.fails = true)
    (hkind : failure.kind = check.kind) :
    Decides (check :: rest) (.error failure : Except Failure α) := by
  have hfirst : firstFailure? (check :: rest) = some check.kind := by
    rw [firstFailure?, List.find?_cons_of_pos hfails]
    rfl
  rw [Decides, hfirst]
  exact ⟨failure, rfl, hkind⟩

theorem decides_cons_of_passes {result : Except Failure α} (hpasses : check.fails = false)
    (h : Decides rest result) : Decides (check :: rest) result := by
  have hfirst : firstFailure? (check :: rest) = firstFailure? rest := by
    rw [firstFailure?, List.find?_cons_of_neg (by simp [hpasses])]
    rfl
  rwa [Decides, hfirst]

/-- A value that has to be there. -/
theorem decides_required {value : Option α} {obstacle : Obstacle} {f : α → Except Failure β}
    (hfails : check.fails = value.isNone) (hkind : check.kind = obstacle.kind)
    (h : ∀ a, value = some a → Decides rest (f a)) :
    Decides (check :: rest) (required value obstacle >>= f) := by
  cases value with
  | none => exact decides_cons_of_fails hfails hkind.symm
  | some a => exact decides_cons_of_passes hfails (h a rfl)

/-- A computation whose failures are all of one kind. -/
theorem decides_mapError {result : Except ε α} {g : ε → Failure} {f : α → Except Failure β}
    (hfails : check.fails = !result.isOk) (hkind : ∀ e, (g e).kind = check.kind)
    (h : ∀ a, result = .ok a → Decides rest (f a)) :
    Decides (check :: rest) (result.mapError g >>= f) := by
  cases result with
  | error e => exact decides_cons_of_fails hfails (hkind e)
  | ok a => exact decides_cons_of_passes hfails (h a rfl)

/-- The first check of a target is whether it belongs to whom it is claimed for. -/
theorem decides_shape {kind : Kind} {mutate : Mutation kind} {owner : OwnerReference}
    {key : ObjectKey} {found : Option kind.Object}
    {f : kind.Object → Metadata → Except Failure kind.Object}
    (hmutate : ∀ o presence, mutate o presence =
      ((kind.metadata o).claim presence owner).mapError Failure.ofOwnership >>= f o)
    (hfails : check.fails = true ↔ ∃ o, found = some o ∧ ¬ (kind.metadata o).BelongsTo owner)
    (hkind : check.kind = .permanent) (h : ∀ o claimed, Decides rest (f o claimed)) :
    Decides (check :: rest) (mutate.shape key found) := by
  cases found with
  | none =>
    rw [Mutation.shape, hmutate]
    have hpasses : check.fails = false := by simpa using hfails
    exact decides_cons_of_passes hpasses (h _ _)
  | some o =>
    rw [Mutation.shape, hmutate]
    cases hclaim : (kind.metadata o).claim .existing owner with
    | error fault =>
      have hother : ¬ (kind.metadata o).BelongsTo owner := fun hb => by
        rw [Metadata.claim_existing_eq_ok.mpr ⟨hb, rfl⟩] at hclaim
        cases hclaim
      exact decides_cons_of_fails (hfails.mpr ⟨o, rfl, hother⟩) hkind.symm
    | ok claimed =>
      have hpasses : check.fails = false := by
        refine Bool.eq_false_iff.mpr fun hc => ?_
        obtain ⟨found, hfound, hother⟩ := hfails.mp hc
        obtain rfl := Option.some.inj hfound
        exact hother (Metadata.claim_existing_eq_ok.mp hclaim).1
      exact decides_cons_of_passes hpasses (h o claimed)

/-- What decides about the mutation of an upsert decides about the upsert. -/
theorem decides_upsert {kind : Kind} {s : MemoryStore kind} {mutate : Mutation kind}
    {owner : OwnerReference} {source : Metadata} {key : ObjectKey} {checks : List Check}
    (hs : s.Consistent) (hm : mutate.ClaimsFor owner source) (now : Timestamp)
    (h : Decides checks (mutate.shape key (s.objects.get? key))) :
    Decides checks (s.upsert now now key mutate).1 := by
  unfold Decides at h ⊢
  cases hfirst : firstFailure? checks with
  | some kind =>
    rw [hfirst] at h
    obtain ⟨failure, hshape, hkind⟩ := h
    exact ⟨failure, congrArg Prod.fst (MemoryStore.upsert_of_error hshape), hkind⟩
  | none =>
    rw [hfirst] at h
    obtain ⟨desired, hshape⟩ := h
    obtain ⟨op, t, stored, hdone, -⟩ := MemoryStore.exists_upsert_of_ok hs hm hshape
    exact ⟨op, congrArg Prod.fst hdone⟩

end Check

instance (m : Metadata) (owner : OwnerReference) : Decidable (m.BelongsTo owner) :=
  decidable_of_iff (m.validateOwnership owner = .ok ()) Metadata.validateOwnership_eq_ok

namespace Certificate

/-- The checks of a certificate that was looked up. -/
def checks (c : Option Certificate) : List Check :=
  let status := c.bind (·.status)
  [⟨c.isNone, .ignorable⟩,
    ⟨(c.bind (·.metadata.annotation? Annotation.secretName)).isNone, .ignorable⟩,
    ⟨(status.bind (·.cert)).isNone || (status.bind (·.privateKey)).isNone ||
      (status.bind (·.serverCaCert)).isNone, .temporary⟩]

theorem isNone_issued? (c : Certificate) :
    c.issued?.isNone = ((c.status.bind (·.cert)).isNone ||
      (c.status.bind (·.privateKey)).isNone || (c.status.bind (·.serverCaCert)).isNone) := by
  unfold issued?
  cases c.status with
  | none => rfl
  | some status =>
    obtain ⟨cert, privateKey, serverCaCert⟩ := status
    cases cert <;> cases privateKey <;> cases serverCaCert <;> rfl

end Certificate

namespace Instance

/-- The checks of an instance that was looked up. -/
def checks (i : Option Instance) : List Check :=
  let addresses := ((i.bind (·.status)).map (·.addresses)).getD []
  [⟨i.isNone, .ignorable⟩,
    ⟨(i.bind (·.spec.resourceId)).isNone, .temporary⟩,
    ⟨!addresses.any fun a => (a.type = some "PRIMARY" || a.type = some "PRIVATE") &&
      a.address.isSome, .temporary⟩]

theorem isSome_reachable? (a : InstanceAddress) :
    (reachable? a).isSome =
      ((a.type = some "PRIMARY" || a.type = some "PRIVATE") && a.address.isSome) := by
  unfold reachable?
  cases a.type with
  | none => rfl
  | some type =>
    have hc : reachableTypes.contains type = (type = "PRIMARY" || type = "PRIVATE") := by
      simp [reachableTypes]
    simp only [Option.any_some, hc, Option.some.injEq]
    cases (type = "PRIMARY" || type = "PRIVATE" : Bool) <;> rfl

theorem isNone_privateAddress? (i : Instance) :
    i.privateAddress?.isNone = (i.status.bind (·.privateAddress)).all String.isEmpty := by
  rw [privateAddress?, Option.isNone_filter]
  simp

theorem isEmpty_egressAddresses (i : Instance) :
    i.egressAddresses.isEmpty = !(((i.status.map (·.addresses)).getD []).any fun a =>
      (a.type = some "PRIMARY" || a.type = some "PRIVATE") && a.address.isSome) := by
  simp only [← isSome_reachable?]
  rw [egressAddresses, (List.mergeSort_perm _ _).isEmpty_eq]
  induction (i.status.map (·.addresses)).getD [] with
  | nil => rfl
  | cons a rest ih => cases h : reachable? a <;> simp [h, ih]

end Instance

namespace User

/-- The checks of a user that was looked up, and of the instance that it names. -/
def checks (u : Option User) (i : Option Instance) : List Check :=
  let envPrefix := u.bind (·.metadata.annotation? Annotation.envVarPrefix)
  let database := u.bind (·.metadata.annotation? Annotation.databaseName)
  let ref := ((u.bind (·.spec.password)).bind (·.valueFrom)).bind (·.secretKeyRef)
  let network := (i.bind (·.spec.settings.ipConfiguration)).bind (·.privateNetworkRef)
  let address := (i.bind (·.status)).bind (·.privateAddress)
  [⟨u.isNone, .ignorable⟩,
    ⟨envPrefix.isNone, .ignorable⟩,
    ⟨database.isNone, .ignorable⟩,
    ⟨ref.all fun r => r.name.isEmpty || r.key.isEmpty, .permanent⟩,
    ⟨i.isNone, .temporary⟩,
    ⟨network.isNone, .permanent⟩,
    ⟨address.all String.isEmpty, .temporary⟩,
    ⟨ref.map (·.key) ≠ envPrefix.map (· ++ "_PASSWORD"), .permanent⟩]

theorem isNone_passwordSecretRef? (u : User) :
    u.passwordSecretRef?.isNone =
      (((u.spec.password.bind (·.valueFrom)).bind (·.secretKeyRef)).all fun r =>
        r.name.isEmpty || r.key.isEmpty) := by
  rw [passwordSecretRef?, Option.isNone_filter]
  simp

end User

namespace Source

/-- The check of a target that is there already: it has to belong to its source. -/
def ownershipCheck (s : Source) (c : Cluster) (ns : String) (x : Option s.kind.Object) : Check where
  fails := x.any fun x => ((s.targetKey? ns x).bind (c.stored? s.target)).any fun found =>
    !decide ((s.target.metadata found).BelongsTo (s.kind.ownerReference x))
  kind := .permanent

/-- All checks of a reconcile in their order. -/
def checks (s : Source) (c : Cluster) (key : ObjectKey) : List Check :=
  match s with
  | .certificate =>
    let x := c.stored? .certificate key
    Certificate.checks x ++ [ownershipCheck .certificate c key.namespace x]
  | .sqlInstance =>
    let i := c.stored? .sqlInstance key
    Instance.checks i ++ [ownershipCheck .sqlInstance c key.namespace i]
  | .user =>
    let u := c.stored? .user key
    let i := u.bind fun u =>
      let ref := (User.spec u).instanceRef
      c.stored? .sqlInstance
        ⟨if ref.namespace = "" then key.namespace else ref.namespace, ref.name⟩
    let address := (i.bind Instance.status).bind (·.privateAddress)
    User.checks u i ++ [ownershipCheck .user c key.namespace u,
      ⟨address.any fun host => !Connection.isAddressable host databasePort, .permanent⟩]

variable {s : Source} {mount : MountSettings} {draw : Draw} {key : ObjectKey} {c : Cluster}

theorem fails_ownershipCheck {x : s.kind.Object} {ns : String} {target : ObjectKey}
    (h : s.targetKey? ns x = some target) :
    (s.ownershipCheck c ns (some x)).fails = true ↔ ∃ o, c.stored? s.target target = some o ∧
      ¬ (s.target.metadata o).BelongsTo (s.kind.ownerReference x) := by
  simp [ownershipCheck, h, Option.any_eq_true]

/-- An upsert of the target is decided by the check of its owner, and by what the mutation
checks then. -/
theorem decides_upsert {x : s.kind.Object} {target : ObjectKey} {mutate : Mutation s.target}
    {rest : List Check} {f : s.target.Object → Metadata → Except Failure s.target.Object}
    (hc : c.Consistent) (htarget : s.targetKey? key.namespace x = some target)
    (hshaping : s.Shaping x mutate)
    (hmutate : ∀ o presence, mutate o presence =
      ((s.target.metadata o).claim presence (s.kind.ownerReference x)).mapError
        Failure.ofOwnership >>= f o)
    (h : ∀ o claimed, Check.Decides rest (f o claimed)) (now : Timestamp) :
    Check.Decides (s.ownershipCheck c key.namespace (some x) :: rest)
      ((c.store s.target).upsert now now target mutate).1 := by
  refine Check.decides_upsert (hc s.target) hshaping.claimsFor now ?_
  exact Check.decides_shape hmutate (fails_ownershipCheck htarget) rfl h

/-- The reconcile of a certificate makes its checks in the order of the table. -/
theorem decides_certificate (hc : c.Consistent) :
    Check.Decides (checks .certificate c key) (resultIn .certificate mount draw key c) := by
  simp only [resultIn, planIn, target, Certificate.plan, bind_assoc, pure_bind]
  refine Check.decides_required rfl rfl fun x hx => ?_
  rw [hx]
  refine Check.decides_required rfl rfl fun name hname => ?_
  refine Check.decides_required (x.isNone_issued?).symm rfl fun issued hissued => ?_
  rw [x.target_planFor, x.mutate_planFor]
  exact decides_upsert (s := .certificate) hc (Option.map_eq_some_iff.mpr ⟨name, hname, rfl⟩)
    (.certificate x _) (fun _ _ => rfl) (fun _ _ => Check.decides_nil _) draw.now

theorem decides_sqlInstance (hc : c.Consistent) :
    Check.Decides (checks .sqlInstance c key) (resultIn .sqlInstance mount draw key c) := by
  simp only [resultIn, planIn, target, Instance.plan, bind_assoc]
  refine Check.decides_required rfl rfl fun i hi => ?_
  rw [hi]
  refine Check.decides_required rfl rfl fun resourceId hid => ?_
  have hempty := i.isEmpty_egressAddresses
  cases he : i.egressAddresses.isEmpty with
  | true => exact Check.decides_cons_of_fails (hempty.symm.trans he) rfl
  | false =>
    refine Check.decides_cons_of_passes (hempty.symm.trans he) ?_
    refine decides_upsert (s := .sqlInstance) hc ?_ (.sqlInstance i i.egressAddresses)
      (fun _ _ => rfl) (fun _ _ => Check.decides_nil _) draw.now
    exact Option.map_eq_some_iff.mpr ⟨resourceId, hid, rfl⟩

/-- The secret entry is compared with the prefix only when the instance has been looked up. -/
theorem decides_user (hc : c.Consistent) :
    Check.Decides (checks .user c key) (resultIn .user mount draw key c) := by
  simp only [resultIn, planIn, target, User.order, User.plan, bind_assoc, pure_bind]
  refine Check.decides_required rfl rfl fun u hu => ?_
  simp only [hu, Option.bind_some, ← User.instanceKey_eq]
  refine Check.decides_required rfl rfl fun envPrefix hprefix => ?_
  refine Check.decides_required rfl rfl fun database hdatabase => ?_
  refine Check.decides_required u.isNone_passwordSecretRef?.symm rfl fun ref href => ?_
  refine Check.decides_required rfl rfl fun i hi => ?_
  rw [hi]
  cases hnetwork : (Instance.privateNetworkRef? i).isNone with
  | true => exact Check.decides_cons_of_fails hnetwork rfl
  | false =>
  refine Check.decides_cons_of_passes hnetwork ?_
  rw [if_neg Bool.false_ne_true, bind_assoc]
  refine Check.decides_required i.isNone_privateAddress?.symm rfl fun host hhost => ?_
  have haddress := (Option.filter_eq_some_iff.mp hhost).1
  have hname : Connection.variableName envPrefix "PASSWORD" = envPrefix ++ "_PASSWORD" := by
    rw [Connection.variableName, String.append_assoc]
    rfl
  have hmap : ((u.spec.password.bind (·.valueFrom)).bind (·.secretKeyRef)).map (·.key) ≠
      (u.metadata.annotation? Annotation.envVarPrefix).map (· ++ "_PASSWORD") ↔
        ¬ ref.key = Connection.variableName envPrefix "PASSWORD" := by
    rw [(Option.filter_eq_some_iff.mp href).1, hprefix, hname]
    simp
  by_cases hkey : ref.key =
      User.Access.passwordKey ⟨envPrefix, host, database, User.username u, mount.paths⟩
  · refine Check.decides_cons_of_passes (decide_eq_false fun hc => hmap.mp hc hkey) ?_
    rw [if_pos hkey]
    refine decides_upsert (s := .user) hc (Option.map_eq_some_iff.mpr ⟨ref, href, rfl⟩)
      (.user u _ draw.seed) (fun _ _ => rfl) (fun secret claimed => ?_) draw.now
    refine Check.decides_mapError ?_ (fun _ => rfl) fun environment _ => Check.decides_nil _
    rw [Connection.isOk_environment]
    exact (congrArg (Option.any _) haddress).trans rfl
  · rw [if_neg hkey]
    exact Check.decides_cons_of_fails (decide_eq_true (hmap.mpr hkey)) rfl

/-- The checks decide what a reconcile that runs alone comes to. -/
theorem decides_resultIn (s : Source) (mount : MountSettings) (draw : Draw) (key : ObjectKey)
    (hc : c.Consistent) :
    Check.Decides (s.checks c key) (s.resultIn mount draw key c) := by
  cases s with
  | certificate => exact decides_certificate hc
  | sqlInstance => exact decides_sqlInstance hc
  | user => exact decides_user hc

end Source

namespace Session

/-- What a reconcile comes to where no store fails, no race takes place and nobody else
writes, whatever is stored: the first check that fails decides, and then nothing was
written; if none fails, then the target is brought about. -/
theorem first_failing_check_decides (moves : List (Move Job)) (requeues : Requeues)
    (source : Source) (mount : MountSettings) (draw : Draw) (key : ObjectKey)
    (hq : (System.reconciling moves).cluster.Quiet) :
    let before : Session := ⟨(System.reconciling moves).cluster, requeues⟩
    let r := before.reconcile mount draw source key
    ∃ result, source.ComesTo r result ∧
      match Check.firstFailure? (source.checks before.cluster key) with
      | some kind =>
        (∃ failure, result = .error failure ∧ failure.kind = kind) ∧
          r.state.cluster = before.cluster ∧ ∀ e ∈ r.exchanges, e.call.isWrite = false
      | none =>
        ∃ op x target stored, result = .ok op ∧
          source.BringsAbout key op before.cluster r.state.cluster x target stored := by
  intro before r
  have hc := (System.sound_reconciling moves).consistent
  obtain ⟨⟨hanswered, hreported⟩, halone⟩ :=
    Source.alone_reconcile source mount draw key hq hc
  have hdecides := Source.decides_resultIn source mount draw key hc
  refine ⟨_, ⟨hanswered, hreported⟩, ?_⟩
  unfold Check.Decides at hdecides
  cases hfirst : Check.firstFailure? (source.checks before.cluster key) with
  | some kind =>
    rw [hfirst] at hdecides
    obtain ⟨failure, hresult, hkind⟩ := hdecides
    rw [hresult] at halone
    exact ⟨⟨failure, hresult, hkind⟩, halone.of_error⟩
  | none =>
    rw [hfirst] at hdecides
    obtain ⟨op, hresult⟩ := hdecides
    rw [hresult] at halone
    obtain ⟨x, target, stored, hbrings⟩ := halone.of_ok
    exact ⟨op, x, target, stored, hresult, hbrings⟩

end Session

namespace Sample

/-- A cluster with a user and its instance, and another instance that has no address. -/
def unattended : List (Move Job) :=
  [.intervene (.insert .sqlInstance privateDatabase time),
    .intervene (.insert .user (account "OLD") time)]

end Sample

namespace Session

open Sample

/-- A user whose checks all pass gets its secret; the instance, which has neither an
identifier nor an address to let pods through to, is put off for the former. -/
theorem first_failing_check_decides_for_user :
    let before : Session := ⟨(System.reconciling unattended).cluster, {}⟩
    (∃ op x target stored, Source.user.BringsAbout handOut.key op before.cluster
      (before.reconcile {} handOut.draw .user handOut.key).state.cluster x target stored) ∧
    ∃ failure, failure.kind = .temporary ∧
      Source.sqlInstance.ComesTo (before.reconcile {} handOut.draw .sqlInstance ⟨"ns", "db"⟩)
        (.error failure) := by
  intro before
  have hq : before.cluster.Quiet := ⟨rfl, fun kind => by cases kind <;> decide +kernel⟩
  have hpass : Check.firstFailure? (Source.user.checks before.cluster handOut.key) = none := by
    decide +kernel
  have hfail : Check.firstFailure? (Source.sqlInstance.checks before.cluster ⟨"ns", "db"⟩) =
      some .temporary := by
    decide +kernel
  obtain ⟨_, -, hdecided⟩ :=
    first_failing_check_decides unattended {} .user {} handOut.draw handOut.key hq
  obtain ⟨result, hcomes, hdecided'⟩ :=
    first_failing_check_decides unattended {} .sqlInstance {} handOut.draw ⟨"ns", "db"⟩ hq
  rw [hpass] at hdecided
  rw [hfail] at hdecided'
  obtain ⟨op, x, target, stored, -, hbrings⟩ := hdecided
  obtain ⟨⟨failure, rfl, hkind⟩, -⟩ := hdecided'
  exact ⟨⟨op, x, target, stored, hbrings⟩, failure, hkind, hcomes⟩

end Session

end SqlOperator
