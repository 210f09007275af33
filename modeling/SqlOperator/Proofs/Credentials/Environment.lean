import SqlOperator.Proofs.Reconcile.Shapes

/-!
# The password in an environment

The environment of a user names the password twice, once under the prefix and once
for all. No other variable has a name that could be the password's under some
prefix: the names under the prefix end differently, and the ones for database
clients have no underscore.
-/

namespace SqlOperator

/-- The password of some environment may be found under this name. -/
def NamesPassword (name : String) : Prop :=
  name = sharedPasswordKey ∨ ∃ envPrefix, name = Connection.variableName envPrefix "PASSWORD"

theorem getLast?_of_namesPassword {name : String} (h : NamesPassword name) :
    name.toList.getLast? = some 'D' := by
  rcases h with rfl | ⟨envPrefix, rfl⟩
  · decide
  · simp [Connection.variableName]

theorem namesPassword_of_plain {name : String} (h : NamesPassword name)
    (hplain : '_' ∉ name.toList) : name = sharedPasswordKey := by
  rcases h with rfl | ⟨envPrefix, rfl⟩
  · rfl
  · exact absurd (by simp [Connection.variableName]) hplain

namespace Url

variable {u : Url}

theorem exists_setUsername (h : u.host.isSome) (username : String) :
    ∃ v, u.setUsername username = .ok v ∧ v.host = u.host := by
  unfold setUsername
  rw [if_neg (by simp [Option.isSome_iff_ne_none.mp h])]
  by_cases hu : u.username = username.toList
  · exact ⟨u, if_pos hu, rfl⟩
  · exact ⟨_, if_neg hu, rfl⟩

theorem exists_setPassword (h : u.host.isSome) (password : String) :
    ∃ v, u.setPassword password = .ok v := by
  unfold setPassword
  rw [if_neg (by simp [Option.isSome_iff_ne_none.mp h])]
  exact ⟨_, rfl⟩

end Url

namespace Connection

/-- A URL can be written for the host, with a user in front of it. -/
def isAddressable (host : String) (port : UInt16) : Bool :=
  match Url.ofServer host port with
  | .ok url => url.host.isSome
  | .error _ => false

/-- Whether there is an environment depends on the host and the port alone. -/
theorem isOk_environment (c : Connection) :
    c.environment.isOk = isAddressable c.host c.port := by
  unfold environment jdbcUrl driverUrl url isAddressable
  cases Url.ofServer c.host c.port with
  | error e => rfl
  | ok u =>
    cases hu : u.host.isSome with
    | true =>
      obtain ⟨v, hv, hhost⟩ := Url.exists_setUsername hu c.username
      obtain ⟨w, hw⟩ := Url.exists_setPassword (hhost ▸ hu) c.password
      simp [bind, Except.bind, hv, hw, hu, pure, Except.pure, Except.map, Except.isOk,
        Except.toBool]
    | false =>
      have hnone : u.setUsername c.username = .error .emptyHost := if_pos (by simpa using hu)
      simp [bind, Except.bind, hnone, Except.isOk, Except.toBool, hu]

variable {c : Connection} {url jdbcUrl name value : String}

/-- What stands under a name for a password is the password. -/
theorem eq_password_of_mem_entries (h : (name, value) ∈ c.entries url jdbcUrl)
    (hn : NamesPassword name) : value = c.password := by
  have hlast := getLast?_of_namesPassword hn
  have hplain := namesPassword_of_plain hn
  simp only [entries, List.mem_cons, Prod.mk.injEq, List.not_mem_nil, or_false] at h
  rcases h with ⟨-, rfl⟩ | ⟨rfl, -⟩ | ⟨rfl, -⟩ | ⟨rfl, -⟩ | ⟨rfl, -⟩ | ⟨rfl, -⟩ | ⟨rfl, -⟩ | h
  · rfl
  -- The other names under the prefix.
  iterate 6
    · simp [variableName] at hlast
  -- The names that database clients know.
  rcases h with ⟨rfl, -⟩ | ⟨rfl, -⟩ | ⟨rfl, -⟩ | ⟨rfl, -⟩ | ⟨rfl, -⟩ | ⟨rfl, -⟩ | ⟨-, rfl⟩ |
    ⟨rfl, -⟩ | ⟨rfl, -⟩
  iterate 6
    · exact absurd (hplain (by decide)) (by decide)
  · rfl
  iterate 2
    · exact absurd (hplain (by decide)) (by decide)

/-- An environment is made of the texts of both URLs. -/
theorem environment_eq_ok_iff {environment : TextMap} :
    c.environment = .ok environment ↔ ∃ url jdbcUrl, c.url = .ok url ∧ c.jdbcUrl = .ok jdbcUrl ∧
      environment = .ofList (c.entries url.render jdbcUrl) := by
  unfold Connection.environment
  cases c.url with
  | error e => exact ⟨nofun, nofun⟩
  | ok url =>
    cases c.jdbcUrl with
    | error e => exact ⟨nofun, nofun⟩
    | ok jdbcUrl =>
      constructor
      · exact fun h => ⟨url, jdbcUrl, rfl, rfl, (Except.ok.inj h).symm⟩
      · rintro ⟨url', jdbcUrl', hurl, hjdbcUrl, rfl⟩
        obtain rfl := Except.ok.inj hurl
        obtain rfl := Except.ok.inj hjdbcUrl
        rfl

/-- There is no environment exactly if one of the URLs cannot be written, and the first of
them tells why. -/
theorem environment_eq_error_iff {e : UrlError} :
    c.environment = .error e ↔
      c.url = .error e ∨ (∃ url, c.url = .ok url) ∧ c.jdbcUrl = .error e := by
  unfold Connection.environment
  cases c.url with
  | error e => simp [bind, Except.bind]
  | ok url => cases c.jdbcUrl <;> simp [bind, Except.bind, pure, Except.pure]

theorem environment_eq_ok {environment : TextMap} (h : c.environment = .ok environment) :
    ∃ url jdbcUrl, environment = .ofList (c.entries url jdbcUrl) := by
  obtain ⟨url, jdbcUrl, -, -, henv⟩ := environment_eq_ok_iff.mp h
  exact ⟨url.render, jdbcUrl, henv⟩

variable {environment : TextMap}

/-- A secret has the password under every name that it has for one. -/
theorem eq_password_of_get?_secretData (h : c.environment = .ok environment)
    (hn : NamesPassword name) {bytes : Bytes}
    (hb : (User.secretData environment).get? name = some bytes) :
    bytes = .ofText c.password := by
  obtain ⟨url, jdbcUrl, rfl⟩ := environment_eq_ok h
  obtain ⟨⟨key, value⟩, hmem, he⟩ := List.mem_map.mp (SortedMap.mem_of_get?_ofList hb)
  obtain ⟨rfl, rfl⟩ := Prod.mk.inj he
  have hentry := (SortedMap.mem_foldl_insert hmem).resolve_right List.not_mem_nil
  rw [eq_password_of_mem_entries hentry hn]

/-- A secret has every variable of the environment. -/
theorem isSome_get?_secretData (hmem : (name, value) ∈ c.entries url jdbcUrl) :
    ((User.secretData (.ofList (c.entries url jdbcUrl))).get? name).isSome := by
  obtain ⟨found, hfound⟩ := Option.isSome_iff_exists.mp
    (SortedMap.isSome_get?_foldl_insert (m := .empty) (.inr ⟨value, hmem⟩))
  refine SortedMap.isSome_get?_foldl_insert (.inr ⟨.ofText found, ?_⟩)
  exact List.mem_map.mpr ⟨(name, found), SortedMap.mem_entries_of_get? hfound, rfl⟩

/-- A secret has the password under the prefix and under the name for all. -/
theorem get?_secretData_password (h : c.environment = .ok environment)
    (hn : name = sharedPasswordKey ∨ name = variableName c.envPrefix "PASSWORD") :
    (User.secretData environment).get? name = some (.ofText c.password) := by
  obtain ⟨url, jdbcUrl, henv⟩ := environment_eq_ok h
  have hmem : (name, c.password) ∈ c.entries url jdbcUrl := by
    rcases hn with rfl | rfl <;> simp [entries]
  obtain ⟨bytes, hb⟩ := Option.isSome_iff_exists.mp (isSome_get?_secretData hmem)
  rw [← henv] at hb
  rw [hb, eq_password_of_get?_secretData h (hn.imp_right fun he => ⟨_, he⟩) hb]

end Connection

/-- The secret holds this password: as the one for all, and under no prefix another. -/
structure Secret.Keeps (s : Secret) (password : String) : Prop where
  shared : ∃ data, s.data = some data ∧
    data.get? sharedPasswordKey = some (.ofText password)
  prefixed : ∀ data envPrefix, s.data = some data →
    data.get? (Connection.variableName envPrefix "PASSWORD") = none ∨
      data.get? (Connection.variableName envPrefix "PASSWORD") = some (.ofText password)

theorem PasswordSeed.password_ne_empty (seed : PasswordSeed) : seed.password ≠ "" := by
  obtain ⟨bytes, hlen⟩ := seed
  match bytes, hlen with
  | x :: y :: z :: rest, _ => simp [password, Text.Base64.encode]

namespace User

variable {u : User} {access : Access} {seed : PasswordSeed} {secret desired : Secret}
  {presence : Presence}

/-- A password that a secret keeps is found under every prefix. -/
theorem password?_of_keeps {password : String} (h : secret.Keeps password)
    (hne : password ≠ "") (envPrefix : String) :
    secret.password? (Connection.variableName envPrefix "PASSWORD") = some password := by
  obtain ⟨⟨data, hdata, hshared⟩, hprefixed⟩ := h
  have hfound : [Connection.variableName envPrefix "PASSWORD", sharedPasswordKey].findSome?
      (SecretData.text? data) = some password := by
    rcases hprefixed data envPrefix hdata with hp | hp <;>
      simp [SecretData.text?, hp, hshared]
  simp [Secret.password?, hdata, hfound, hne]

theorem settle_eq_of_keeps {password : String} (h : secret.Keeps password)
    (hne : password ≠ "") : access.settle seed secret = password := by
  simp [Access.settle, Access.passwordKey, password?_of_keeps h hne]

theorem settle_ne_empty (access : Access) (seed : PasswordSeed) (secret : Secret) :
    access.settle seed secret ≠ "" := by
  unfold Access.settle
  cases hp : secret.password? access.passwordKey with
  | none => exact seed.password_ne_empty
  | some password =>
    have hne := (Option.filter_eq_some_iff.mp hp).2
    simpa using hne

/-- A secret with the data of an environment keeps the password of the connection. -/
theorem keeps_of_secretData {c : Connection} {environment : TextMap}
    (henv : c.environment = .ok environment)
    (hdata : secret.data = some (secretData environment)) : secret.Keeps c.password := by
  refine ⟨⟨_, hdata, Connection.get?_secretData_password henv (.inl rfl)⟩,
    fun data envPrefix hd => ?_⟩
  obtain rfl := Option.some.inj (hdata.symm.trans hd)
  cases hb : (secretData environment).get? (Connection.variableName envPrefix "PASSWORD") with
  | none => exact .inl rfl
  | some bytes =>
    have := Connection.eq_password_of_get?_secretData henv (.inr ⟨envPrefix, rfl⟩) hb
    exact .inr (congrArg some this)

/-- A secret with the data of an environment keeps the password of the environment. -/
theorem keeps_of_data_eq {password : String} {environment : TextMap}
    (henv : (access.connection password).environment = .ok environment)
    (hdata : secret.data = some (secretData environment)) :
    secret.Keeps password ∧ ∃ data, secret.data = some data ∧
      data.get? access.passwordKey = some (.ofText password) :=
  ⟨keeps_of_secretData henv hdata, _, hdata, Connection.get?_secretData_password henv (.inr rfl)⟩

/-- A shaped secret keeps the password that it was shaped with, and has it under the
prefix. -/
theorem keeps_of_shapeSecret (h : u.shapeSecret access seed secret presence = .ok desired) :
    desired.Keeps (access.settle seed secret) ∧ ∃ data, desired.data = some data ∧
      data.get? access.passwordKey = some (.ofText (access.settle seed secret)) := by
  obtain ⟨claimed, environment, -, henv, rfl⟩ := shapeSecret_eq_ok.mp h
  exact keeps_of_data_eq henv rfl

end User

end SqlOperator
