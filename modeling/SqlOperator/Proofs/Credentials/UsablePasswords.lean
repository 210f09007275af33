import SqlOperator.Proofs.Credentials.PasswordStability
import SqlOperator.Proofs.Reconcile.Projection

/-!
# Usable passwords

The secret of a user may have a password under the user's prefix and one for all clients, and
anybody may have changed either of them. An entry is usable if it is a text and not empty. A
reconcile should keep the usable entry under the prefix, or else the usable one for all clients,
and take a new password only if there is none.

It does so unless the entry under the prefix is an empty text: then a new password is taken
whatever the other entry is, for the entries are looked through for a text first, and only the
text that was found is asked whether it is empty.
-/

namespace SqlOperator

namespace Secret

variable {s : Secret} {name passwordKey : String}

/-- The entry under a name, if it is a text. -/
def text? (s : Secret) (name : String) : Option String := s.data.bind fun data => data.text? name

/-- The entry under a name, if it is a text that is not empty. -/
def usable? (s : Secret) (name : String) : Option String :=
  (s.text? name).filter fun text => !text.isEmpty

/-- The password that a secret can give back: the usable entry under the prefix, or else the
usable entry for all clients. -/
def keepable? (s : Secret) (passwordKey : String) : Option String :=
  (s.usable? passwordKey).or (s.usable? sharedPasswordKey)

/-- An empty text under the prefix hides the password for all clients, and nothing else does. -/
theorem password?_eq (s : Secret) (passwordKey : String) :
    s.password? passwordKey =
      if s.text? passwordKey = some "" then none else s.keepable? passwordKey := by
  unfold password? keepable? usable? text?
  cases s.data with
  | none => rfl
  | some data =>
    simp only [Option.bind_some, List.findSome?_cons, List.findSome?_nil]
    cases hown : data.text? passwordKey with
    | none => cases data.text? sharedPasswordKey <;> simp
    | some text => by_cases htext : text = "" <;> simp [htext, Option.filter_some]

/-- The password that a reconcile settles on is the one that it should keep, or a new one if
there is none to keep, unless an empty text hides a password. -/
theorem password?_getD_eq_iff (s : Secret) (passwordKey : String) (fresh : String) :
    (s.password? passwordKey).getD fresh = (s.keepable? passwordKey).getD fresh ↔
      ¬(s.text? passwordKey = some "" ∧
        ∃ hidden, s.usable? sharedPasswordKey = some hidden ∧ hidden ≠ fresh) := by
  rw [password?_eq]
  by_cases hblank : s.text? passwordKey = some ""
  · have hunusable : s.usable? passwordKey = none := by
      rw [usable?, hblank]
      rfl
    rw [if_pos hblank, keepable?, hunusable, Option.none_or, Option.getD_none]
    cases hshared : s.usable? sharedPasswordKey with
    | none => simp
    | some hidden =>
      simp only [hblank, Option.getD_some, true_and, Option.some.injEq, exists_eq_left']
      exact ⟨fun he hne => hne he.symm, fun hnot => (not_not.mp hnot).symm⟩
  · rw [if_neg hblank]
    exact ⟨fun _ h => hblank h.1, fun _ => rfl⟩

end Secret

namespace User

variable {u : User} {mount : MountSettings} {i : Option Instance} {password : String}
  {secret : Secret}

/-- A secret that says what a user has to say has one password under both names. -/
theorem exists_password_of_project? (h : u.project? mount i password = some secret.payload) :
    ∃ envPrefix data, u.metadata.annotation? Annotation.envVarPrefix = some envPrefix ∧
      secret.data = some data ∧
      data.get? (Connection.variableName envPrefix "PASSWORD") = some (.ofText password) ∧
      data.get? sharedPasswordKey = some (.ofText password) := by
  obtain ⟨order, host, environment, horder, -, henv, hsays⟩ := project?_eq_some_iff.mp h
  obtain ⟨hkeeps, own, hown, hpassword⟩ :=
    keeps_of_data_eq henv (Payload.entries.inj hsays).1.symm
  obtain ⟨data, hdata, hshared⟩ := hkeeps.shared
  obtain rfl := Option.some.inj (hdata.symm.trans hown)
  exact ⟨order.envPrefix, data, (order_eq_ok horder).1, hdata, hpassword, hshared⟩

end User

namespace Session

/-- Whenever a user's reconcile has succeeded, from every state that others and reconciles can
lead to, the secret has one password under both names. If there was a secret before, it is the
one that should be kept, or a new one if there is none to keep, unless an empty text under the
prefix hides the one for all clients: then it is a new one all the same. -/
theorem password_kept_iff (moves : List (Move Job)) (requeues : Requeues)
    (mount : MountSettings) (draw : Draw) (key : ObjectKey) (op : Operation) :
    let before : Session := ⟨(System.reconciling moves).cluster, requeues⟩
    let r := before.reconcile mount draw .user key
    r.log.getLast? = some (.reconciled op Source.user.target.name) →
      ∃ (u : User) (envPrefix : String) (target : ObjectKey) (stored : Secret)
          (data : SecretData) (password : String),
        before.cluster.stored? .user key = some u ∧
        u.metadata.annotation? Annotation.envVarPrefix = some envPrefix ∧
        Source.user.targetKey? key.namespace u = some target ∧
        r.state.cluster.stored? .secret target = some stored ∧ stored.data = some data ∧
        let own := Connection.variableName envPrefix "PASSWORD"
        data.get? own = some (.ofText password) ∧
        data.get? sharedPasswordKey = some (.ofText password) ∧
        ∀ t : Secret, before.cluster.stored? .secret target = some t →
          (t.text? own = some "" → password = draw.seed.password) ∧
          (password = (t.keepable? own).getD draw.seed.password ↔
            ¬(t.text? own = some "" ∧ ∃ hidden,
              t.usable? sharedPasswordKey = some hidden ∧ hidden ≠ draw.seed.password)) := by
  intro before r h
  obtain ⟨result, hcomes, hends, hreplays⟩ :=
    exists_comesTo (Source.task_always .user mount draw key) before
  obtain rfl := hcomes.eq_ok h
  obtain ⟨u, target, stored, hu, htarget, hstored, hproject, -⟩ :=
    hends.projects (System.sound_reconciling moves).consistent
      (System.identified_after Job.program moves) hreplays
  obtain ⟨envPrefix, data, hann, hdata, hown, hshared⟩ := User.exists_password_of_project? hproject
  refine ⟨u, envPrefix, target, stored, data, _, hu, hann, htarget, hstored, hdata, hown, hshared,
    fun t ht => ?_⟩
  have hsettled : Source.user.settled draw.seed u
      ((before.cluster.stored? Source.user.target target).getD (Source.user.target.blank target)) =
      (Secret.password? t (Connection.variableName envPrefix "PASSWORD")).getD
        draw.seed.password := by
    rw [show before.cluster.stored? Source.user.target target = some t from ht]
    exact User.settled_eq hann
  rw [hsettled]
  refine ⟨fun hblank => ?_, t.password?_getD_eq_iff _ _⟩
  rw [Secret.password?_eq, if_pos hblank, Option.getD_none]

open Sample

/-- The password for all clients is kept if there is no entry under the new prefix. -/
theorem password_for_all_clients_kept :
    let before : Session := ⟨(System.reconciling (drifting [("PGPASSWORD", "live")])).cluster, {}⟩
    ∃ (stored : Secret) (data : SecretData),
      (before.reconcile {} handOut.draw .user handOut.key).state.cluster.stored? .secret secretKey =
        some stored ∧ stored.data = some data ∧
      data.get? "NEW_PASSWORD" = some (.ofText "live") ∧
      data.get? "PGPASSWORD" = some (.ofText "live") := by
  intro before
  have hupdated : (before.reconcile {} handOut.draw .user handOut.key).log.getLast? =
      some (.reconciled .updated "Secret") := by
    decide +kernel
  have hsource : (before.cluster.stored? .user handOut.key).map (fun u : User =>
      (Source.user.targetKey? "ns" u, u.metadata.annotation? Annotation.envVarPrefix)) =
      some (some secretKey, some "NEW") := by
    decide +kernel
  have htarget : (before.cluster.stored? .secret secretKey).map (fun t : Secret =>
      (t.text? "NEW_PASSWORD", t.keepable? "NEW_PASSWORD")) = some (none, some "live") := by
    decide +kernel
  obtain ⟨u, envPrefix, target, stored, data, password, hu, hann, hkey, hstored, hdata, hown,
    hshared, hkept⟩ :=
    password_kept_iff (drifting [("PGPASSWORD", "live")]) {} {} handOut.draw handOut.key .updated
      hupdated
  obtain ⟨v, hv, hsource⟩ := Option.map_eq_some_iff.mp hsource
  obtain rfl := Option.some.inj (hu.symm.trans hv)
  obtain ⟨hkey', hann'⟩ := Prod.mk.inj hsource
  obtain rfl := Option.some.inj (hkey.symm.trans hkey')
  obtain rfl := Option.some.inj (hann.symm.trans hann')
  obtain ⟨t, ht, htarget⟩ := Option.map_eq_some_iff.mp htarget
  obtain ⟨habsent, hlive⟩ := Prod.mk.inj htarget
  have hpassword : password = "live" := by
    have hkeeps := (hkept t ht).2.mpr fun hblank => nomatch habsent.symm.trans hblank.1
    exact hkeeps.trans (congrArg (Option.getD · _) hlive)
  exact ⟨stored, data, hstored, hdata, hpassword ▸ hown, hpassword ▸ hshared⟩

/-- The password for all clients is thrown away if the entry under the prefix is an empty text. -/
theorem password_for_all_clients_thrown_away :
    let before : Session := ⟨(System.reconciling
      (drifting [("NEW_PASSWORD", ""), ("PGPASSWORD", "live")])).cluster, {}⟩
    let r := before.reconcile {} handOut.draw .user handOut.key
    r.log.getLast? = some (.reconciled .updated "Secret") ∧
      ((before.cluster.stored? .secret secretKey).bind
        (Secret.keepable? · "NEW_PASSWORD")) = some "live" ∧
      handOut.draw.seed.password ≠ "live" ∧
      ∀ name ∈ ["NEW_PASSWORD", "PGPASSWORD"],
        ((r.state.cluster.stored? .secret secretKey).bind (Secret.text? · name)) =
          some handOut.draw.seed.password := by
  decide +kernel

end Session

end SqlOperator
