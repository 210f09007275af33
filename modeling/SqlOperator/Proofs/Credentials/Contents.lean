import Mathlib.Data.List.Nodup
import SqlOperator.Proofs.Credentials.Environment
import SqlOperator.Proofs.Store.Likeness

/-!
# What an environment tells

The sixteen variables of an environment have names of their own, so that each can be read
from the secret that is made of them. Environments that differ in the password alone differ
in four variables: the password under its two names, and the two URLs. And the secret tells
with which access it was made.
-/

namespace SqlOperator

namespace Connection

/-- The names of variables under the prefix, without it. -/
def suffixes : List String :=
  ["PASSWORD", "HOST", "PORT", "DATABASE", "USERNAME", "URL", "JDBC_URL"]

/-- The names that database clients know. -/
def clientNames : List String :=
  ["PGSSLMODE", "PGSSLROOTCERT", "PGSSLCERT", "PGSSLKEY", "PGHOSTADDR", "PGPORT",
    sharedPasswordKey, "PGDATABASE", "PGUSER"]

variable {c : Connection} {url jdbcUrl name value : String}

theorem names_entries (c : Connection) (url jdbcUrl : String) :
    (c.entries url jdbcUrl).map Prod.fst =
      suffixes.map (variableName c.envPrefix) ++ clientNames := rfl

theorem variableName_injective (envPrefix : String) :
    Function.Injective (variableName envPrefix) := by
  intro a b h
  have hl := congrArg String.toList h
  simp only [variableName, String.toList_append, List.append_cancel_left_eq] at hl
  exact String.toList_inj.mp hl

theorem variableName_ne_of_mem_clientNames (envPrefix suffix : String) (h : name ∈ clientNames) :
    variableName envPrefix suffix ≠ name := by
  have hplain : '_' ∉ name.toList := by
    revert name
    decide
  rintro rfl
  exact hplain (by simp [variableName])

/-- The sixteen variables have different names, whatever the prefix. -/
theorem nodup_names_entries (c : Connection) (url jdbcUrl : String) :
    ((c.entries url jdbcUrl).map Prod.fst).Nodup := by
  rw [names_entries]
  refine List.nodup_append.mpr ⟨?_, by decide, fun a ha b hb => ?_⟩
  · exact List.Nodup.map (variableName_injective c.envPrefix) (by decide)
  · obtain ⟨suffix, -, rfl⟩ := List.mem_map.mp ha
    exact variableName_ne_of_mem_clientNames _ suffix hb

theorem value_eq_of_mem_entries {other : String} (h : (name, value) ∈ c.entries url jdbcUrl)
    (ho : (name, other) ∈ c.entries url jdbcUrl) : other = value := by
  have heq := List.inj_on_of_nodup_map (nodup_names_entries c url jdbcUrl) ho h rfl
  exact congrArg Prod.snd heq

/-- An environment has the variables that it is made of, each once. -/
theorem get?_entries_eq_some_iff :
    (SortedMap.ofList (c.entries url jdbcUrl)).get? name = some value ↔
      (name, value) ∈ c.entries url jdbcUrl := by
  refine ⟨SortedMap.mem_of_get?_ofList, fun h => ?_⟩
  exact SortedMap.get?_ofList_of_unique h fun _ => value_eq_of_mem_entries h

theorem isSome_get?_entries_iff :
    ((SortedMap.ofList (c.entries url jdbcUrl)).get? name).isSome ↔
      name ∈ (c.entries url jdbcUrl).map Prod.fst := by
  simp [Option.isSome_iff_exists, get?_entries_eq_some_iff]

/-- A variable that could be the password's under some prefix is the one under this prefix. -/
theorem eq_of_variableName_eq_password {p q suffix : String} (hs : suffix ∈ suffixes)
    (h : variableName p suffix = variableName q "PASSWORD") : p = q := by
  have hlast := getLast?_of_namesPassword (.inr ⟨q, h⟩)
  have hsuffix : suffix = "PASSWORD" := by
    simp only [suffixes, List.mem_cons, List.not_mem_nil, or_false] at hs
    rcases hs with rfl | rfl | rfl | rfl | rfl | rfl | rfl <;>
      first | rfl | simp [variableName] at hlast
  subst hsuffix
  have hl := congrArg String.toList h
  simp only [variableName, String.toList_append, List.append_cancel_right_eq] at hl
  exact String.toList_inj.mp hl

/-- The prefix is told by the name of the password's variable. -/
theorem envPrefix_eq_of_mem_names {envPrefix : String}
    (h : variableName envPrefix "PASSWORD" ∈ (c.entries url jdbcUrl).map Prod.fst) :
    c.envPrefix = envPrefix := by
  rw [names_entries] at h
  rcases List.mem_append.mp h with hs | hc
  · obtain ⟨suffix, hsuffix, heq⟩ := List.mem_map.mp hs
    exact eq_of_variableName_eq_password hsuffix heq
  · exact absurd rfl (variableName_ne_of_mem_clientNames _ _ hc)

end Connection

namespace User

variable {environment environment' : TextMap} {name password password' : String}
  {access access' : Access}

theorem get?_secretData (environment : TextMap) (name : String) :
    (secretData environment).get? name = (environment.get? name).map Bytes.ofText :=
  SortedMap.get?_ofList_map environment Bytes.ofText name

/-- Secrets with the same content come from the same environment. -/
theorem secretData_injective (h : secretData environment = secretData environment') :
    environment = environment' := by
  refine SortedMap.ext_get? fun name => ?_
  have hname := congrArg (·.get? name) h
  simp only [get?_secretData] at hname
  exact Option.map_injective (fun _ _ => Bytes.ofText_injective) hname

/-- Whether a connection has an environment, and why not, does not depend on its password. -/
theorem paired_environment (access : Access) (password password' : String) :
    Paired (fun _ _ => True) (access.connection password).environment
      (access.connection password').environment := by
  have hurl : Paired (fun _ _ => True) (access.connection password).url
      (access.connection password').url := by
    refine .bind_refl _ fun server => .bind_refl _ fun named => ?_
    refine Paired.bind (R := fun _ _ => True) ?_ fun _ _ _ => .ok trivial
    unfold Url.setPassword
    split
    · exact .error _
    · exact .ok trivial
  have hdriverUrl : Paired (fun _ _ => True) (access.connection password).driverUrl
      (access.connection password').driverUrl :=
    .bind_refl _ fun _ => .ok trivial
  have hjdbcUrl : Paired (fun _ _ => True) (access.connection password).jdbcUrl
      (access.connection password').jdbcUrl := hdriverUrl.map fun _ _ _ => trivial
  exact hurl.bind fun _ _ _ => hjdbcUrl.bind fun _ _ _ => .ok trivial

/-- The names of variables that may tell the password. -/
def Access.revealing (access : Access) : List String :=
  [access.passwordKey, sharedPasswordKey, Connection.variableName access.envPrefix "URL",
    Connection.variableName access.envPrefix "JDBC_URL"]

section Contents

variable (h : (access.connection password).environment = .ok environment)
  (h' : (access'.connection password').environment = .ok environment')

include h h'

/-- With other passwords all variables but those that may tell it have the same values. -/
theorem get?_secretData_eq_of_not_revealing (ha : access' = access)
    (hn : name ∉ access.revealing) :
    (secretData environment').get? name = (secretData environment).get? name := by
  subst ha
  obtain ⟨url, jdbcUrl, rfl⟩ := Connection.environment_eq_ok h
  obtain ⟨url', jdbcUrl', rfl⟩ := Connection.environment_eq_ok h'
  simp only [Access.revealing, Access.passwordKey, List.mem_cons, List.not_mem_nil, or_false,
    not_or] at hn
  obtain ⟨hpassword, hshared, hurl, hjdbcUrl⟩ := hn
  rw [get?_secretData, get?_secretData]
  refine congrArg _ (Option.ext fun value => ?_)
  rw [Connection.get?_entries_eq_some_iff, Connection.get?_entries_eq_some_iff]
  simp [Connection.entries, Access.connection, hpassword, hshared, hurl, hjdbcUrl]

/-- With other passwords the same variables are there. -/
theorem isSome_get?_secretData_eq (ha : access' = access) :
    ((secretData environment').get? name).isSome =
      ((secretData environment).get? name).isSome := by
  subst ha
  obtain ⟨url, jdbcUrl, rfl⟩ := Connection.environment_eq_ok h
  obtain ⟨url', jdbcUrl', rfl⟩ := Connection.environment_eq_ok h'
  rw [get?_secretData, get?_secretData, Option.isSome_map, Option.isSome_map, Bool.eq_iff_iff,
    Connection.isSome_get?_entries_iff, Connection.isSome_get?_entries_iff]
  exact Iff.rfl

/-- Two secrets of the same content were made with one access, for given paths. -/
theorem access_eq_of_secretData_eq (hpaths : access'.paths = access.paths)
    (hdata : secretData environment' = secretData environment) : access' = access := by
  obtain ⟨url, jdbcUrl, rfl⟩ := Connection.environment_eq_ok h
  obtain ⟨url', jdbcUrl', henv⟩ := Connection.environment_eq_ok h'
  obtain rfl := secretData_injective hdata
  have hmem : ∀ name value, (name, value) ∈ (access.connection password).entries url jdbcUrl ↔
      (name, value) ∈ (access'.connection password').entries url' jdbcUrl' := by
    intro name value
    rw [← Connection.get?_entries_eq_some_iff, henv, Connection.get?_entries_eq_some_iff]
  have hsame : ∀ name value value',
      (name, value) ∈ (access.connection password).entries url jdbcUrl →
      (name, value') ∈ (access'.connection password').entries url' jdbcUrl' → value' = value :=
    fun name value _ hv => Connection.value_eq_of_mem_entries ((hmem name value).mp hv)
  have hhost : access'.host = access.host :=
    hsame "PGHOSTADDR" _ _ (by simp [Connection.entries, Access.connection])
      (by simp [Connection.entries, Access.connection])
  have hdatabase : access'.database = access.database :=
    hsame "PGDATABASE" _ _ (by simp [Connection.entries, Access.connection])
      (by simp [Connection.entries, Access.connection])
  have husername : access'.username = access.username :=
    hsame "PGUSER" _ _ (by simp [Connection.entries, Access.connection])
      (by simp [Connection.entries, Access.connection])
  have hprefix : access'.envPrefix = access.envPrefix :=
    Connection.envPrefix_eq_of_mem_names
      (List.mem_map.mpr ⟨_, (hmem access.passwordKey password).mp List.mem_cons_self, rfl⟩)
  obtain ⟨_, _, _, _, _⟩ := access
  obtain ⟨_, _, _, _, _⟩ := access'
  cases hhost
  cases hdatabase
  cases husername
  cases hprefix
  cases hpaths
  rfl

end Contents

end User

/-- A certificate's secret has no entry for a password that all secrets share. -/
theorem Certificate.get?_secretData_sharedPasswordKey (layout : FileLayout) (issued : Issued)
    (converted : Option Bytes) :
    (secretData layout issued converted).get? sharedPasswordKey = none := by
  have hnone : ∀ entries : List (String × Bytes), sharedPasswordKey ∉ entries.map Prod.fst →
      (SortedMap.ofList entries).get? sharedPasswordKey = none := by
    intro entries hn
    refine Option.eq_none_iff_forall_ne_some.mpr fun bytes hb => hn ?_
    exact List.mem_map.mpr ⟨_, SortedMap.mem_of_get?_ofList hb, rfl⟩
  have hissued := hnone [(layout.cert, .ofText issued.cert),
    (layout.privateKey, .ofText issued.privateKey), (layout.rootCert, .ofText issued.serverCaCert)]
    (by cases layout <;> simp [FileLayout.cert, FileLayout.privateKey, FileLayout.rootCert,
      sharedPasswordKey])
  cases converted with
  | none => exact hissued
  | some der => exact (SortedMap.get?_insert_of_ne _ _ (by decide)).trans hissued

end SqlOperator
