import SqlOperator.Proofs.Reconcile.Plan

/-!
# What the mutations make

Each of the three mutations succeeds exactly if the target can be claimed, and the
one of a user also needs an environment that can be written down.
-/

namespace SqlOperator

theorem mapError_bind_eq_ok {ε ε' α β : Type} {result : Except ε α} {g : ε → ε'}
    {f : α → Except ε' β} {b : β} :
    result.mapError g >>= f = .ok b ↔ ∃ a, result = .ok a ∧ f a = .ok b := by
  cases result with
  | error e => exact ⟨nofun, nofun⟩
  | ok a =>
    constructor
    · exact fun h => ⟨a, rfl, h⟩
    · rintro ⟨c, hc, h⟩
      exact Except.ok.inj hc ▸ h

theorem Certificate.shapeSecret_eq_ok {c : Certificate} {data : SecretData} {secret : Secret}
    {presence : Presence} {desired : Secret} :
    c.shapeSecret data secret presence = .ok desired ↔
      ∃ claimed, secret.metadata.claim presence (Kind.ownerReference .certificate c) =
          .ok claimed ∧
        desired = { secret with
          metadata := claimed.inheritFrom c.metadata, data := some data, stringData := none } :=
  mapError_bind_eq_ok.trans
    (exists_congr fun _ => and_congr_right fun _ => pure_eq_ok)

theorem Instance.shapePolicy_eq_ok {i : Instance} {addresses : List String}
    {policy : NetworkPolicy} {presence : Presence} {desired : NetworkPolicy} :
    i.shapePolicy addresses policy presence = .ok desired ↔
      ∃ claimed, policy.metadata.claim presence (Kind.ownerReference .sqlInstance i) =
          .ok claimed ∧
        desired = {
          metadata := claimed.inheritFrom i.metadata
          spec := some (policySpec i.app addresses) } :=
  mapError_bind_eq_ok.trans
    (exists_congr fun _ => and_congr_right fun _ => pure_eq_ok)

/-- The password that the secret of a user is shaped with. -/
def User.Access.settle (access : User.Access) (seed : PasswordSeed) (secret : Secret) : String :=
  (secret.password? access.passwordKey).getD seed.password

theorem User.shapeSecret_eq_ok {u : User} {access : User.Access} {seed : PasswordSeed}
    {secret : Secret} {presence : Presence} {desired : Secret} :
    u.shapeSecret access seed secret presence = .ok desired ↔
      ∃ claimed environment,
        secret.metadata.claim presence (Kind.ownerReference .user u) = .ok claimed ∧
        (access.connection (access.settle seed secret)).environment = .ok environment ∧
        desired = { secret with
          metadata := claimed.inheritFrom u.metadata
          data := some (secretData environment), stringData := none } := by
  refine mapError_bind_eq_ok.trans (exists_congr fun claimed => ?_)
  simp only [exists_and_left]
  refine and_congr_right fun _ => mapError_bind_eq_ok.trans (exists_congr fun _ => ?_)
  exact and_congr_right fun _ => pure_eq_ok

end SqlOperator
