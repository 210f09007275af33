import SqlOperator.Proofs.Credentials.Contents
import SqlOperator.Proofs.Credentials.Injection
import SqlOperator.Proofs.Net.HostTexts

/-!
# Variables and URLs agree

An environment tells most of what it has twice, under the prefix of a workload and under the
name that database clients know, and some of it once more in its URLs. Whatever the prefix is,
the sixteen names are different, so that none of the variables is lost. And whatever the host
is, both URLs lead to the same place, and the files for TLS in the URL are the ones that the
variables name.

## Implementation notes

The text of a host may bring a query along. Its parameters come before the ones of the
connection, so that the latter are the ones that count.
-/

namespace SqlOperator

open Text

/-- The URL leads to the host and port of a server's URL, to a database there, and has these
parameters behind the ones of the server's URL. -/
structure Url.Continues (u server : Url) (database : String)
    (parameters : List (String × String)) : Prop where
  separable : u.Separable
  host : u.host = server.host
  port : u.port = server.port
  path : u.path = Url.readPath database.toList
  query : u.query = (server.appendParameters parameters).query

namespace Url.Continues

variable {u server : Url} {database : String} {parameters : List (String × String)}

theorem of_eq {v : Url} (hv : v.Separable) (hhost : v.host = server.host)
    (hport : v.port = server.port) (hquery : v.query = server.query)
    (hu : u = (v.setPath database).appendParameters parameters) :
    u.Continues server database parameters := by
  obtain rfl := hu
  refine ⟨(hv.setPath database).appendParameters parameters, hhost, hport, rfl, ?_⟩
  simp only [appendParameters, setPath, hquery]

/-- The parameters of the server's URL are read first. -/
theorem exists_query (h : u.Continues server database parameters) (hne : parameters ≠ []) :
    ∃ query, u.query = some query ∧
      Form.readable query = Form.readable (server.query.getD []) ++ parameters := by
  have hadded : (Form.encode parameters).isEmpty = false := by
    cases hempty : Form.encode parameters with
    | nil =>
      have hread := Form.readable_encode parameters
      rw [hempty] at hread
      exact absurd hread.symm hne
    | cons => rfl
  refine ⟨_, h.query, ?_⟩
  match server.query with
  | none => exact Form.readable_encode parameters
  | some [] => exact Form.readable_encode parameters
  | some (c :: rest) =>
    simp only [hadded, Bool.false_eq_true, if_false, Option.getD_some]
    exact Form.readable_append (c :: rest) parameters

end Url.Continues

namespace Connection

variable {c : Connection} {server url : Url} {text : String} {environment : TextMap}

theorem url_eq_ok (h : c.url = .ok url) :
    ∃ server, Url.ofServer c.host c.port = .ok server ∧
      url.Continues server c.database c.parameters := by
  unfold Connection.url at h
  cases hserver : Url.ofServer c.host c.port with
  | error e =>
    rw [hserver] at h
    cases h
  | ok server =>
    rw [hserver] at h
    simp only [bind, Except.bind] at h
    cases husername : server.setUsername c.username with
    | error e =>
      rw [husername] at h
      cases h
    | ok named =>
      rw [husername] at h
      dsimp only at h
      cases hpassword : named.setPassword c.password with
      | error e =>
        rw [hpassword] at h
        cases h
      | ok full =>
        rw [hpassword] at h
        obtain ⟨hseparable, written, rfl⟩ :=
          (Url.separable_of_ofServer hserver).1.setUsername husername
        obtain ⟨hseparable, written', rfl⟩ := hseparable.setPassword hpassword
        exact ⟨server, rfl, .of_eq hseparable rfl rfl rfl (Except.ok.inj h).symm⟩

theorem jdbcUrl_eq_ok (h : c.jdbcUrl = .ok text) :
    ∃ server, ∃ driverUrl : Url, Url.ofServer c.host c.port = .ok server ∧
      driverUrl.Continues server c.database c.driverParameters ∧
      text = "jdbc:" ++ driverUrl.render := by
  unfold jdbcUrl driverUrl at h
  cases hserver : Url.ofServer c.host c.port with
  | error e =>
    rw [hserver] at h
    cases h
  | ok server =>
    rw [hserver] at h
    exact ⟨server, _, rfl, .of_eq (Url.separable_of_ofServer hserver).1 rfl rfl rfl rfl,
      (Except.ok.inj h).symm⟩

/-- The variables that clients know by another name have the same value there. -/
theorem copies_agree (c : Connection) (url jdbcUrl : String) :
    ∀ copy ∈ [("PASSWORD", "PGPASSWORD"), ("HOST", "PGHOSTADDR"), ("PORT", "PGPORT"),
        ("DATABASE", "PGDATABASE"), ("USERNAME", "PGUSER")],
      ∃ value, (variableName c.envPrefix copy.1, value) ∈ c.entries url jdbcUrl ∧
        (copy.2, value) ∈ c.entries url jdbcUrl := by
  simp only [List.forall_mem_cons]
  exact ⟨⟨c.password, by simp [entries], by simp [entries, sharedPasswordKey]⟩,
    ⟨c.host, by simp [entries], by simp [entries]⟩,
    ⟨toString c.port.toNat, by simp [entries], by simp [entries]⟩,
    ⟨c.database, by simp [entries], by simp [entries]⟩,
    ⟨c.username, by simp [entries], by simp [entries]⟩, nofun⟩

/-- The parameters for TLS count whatever is in front of them, and have the values of their
variables. -/
theorem files_agree {query : List Char} {inherited : List (String × String)}
    (h : Form.readable query = inherited ++ c.parameters) (text jdbcUrl : String) :
    ∀ file ∈ [("sslcert", "PGSSLCERT"), ("sslkey", "PGSSLKEY"),
        ("sslrootcert", "PGSSLROOTCERT")],
      ∃ value, Form.value? file.1 query = some value ∧
        (file.2, value) ∈ c.entries text jdbcUrl := by
  have hvalue : ∀ before name value after, c.parameters = before ++ (name, value) :: after →
      (∀ p ∈ after, p.1 ≠ name) → Form.value? name query = some value := by
    intro before name value after heq hafter
    rw [heq, ← List.append_assoc] at h
    exact Form.value?_of_readable h hafter
  simp only [List.forall_mem_cons]
  exact ⟨⟨c.paths.cert, hvalue [] _ _ _ rfl (by simp), by simp [entries]⟩,
    ⟨c.paths.privateKey, hvalue [_] _ _ _ rfl (by simp), by simp [entries]⟩,
    ⟨c.paths.rootCert, hvalue [_, _, _] _ _ _ rfl nofun, by simp [entries]⟩, nofun⟩

/-- The environment has no colliding names, and its copies agree. There is one exactly if both
URLs can be written, and otherwise the first that cannot tells why. It has sixteen variables of
different names, each with its own value. The five variables that clients know by another name
have the same value there, the values that count of the parameters for TLS in the URL are the
ones of their variables, and both URLs lead to the same host, port and path. -/
theorem variables_agree (c : Connection) :
    (∀ e, c.environment = .error e ↔
      c.url = .error e ∨ (∃ url, c.url = .ok url) ∧ c.jdbcUrl = .error e) ∧
    ∀ environment, c.environment = .ok environment →
      ∃ url jdbcUrl entries p q query inherited, c.url = .ok url ∧ c.jdbcUrl = .ok jdbcUrl ∧
        entries = [(c.envPrefix ++ "_" ++ "PASSWORD", c.password),
          (c.envPrefix ++ "_" ++ "HOST", c.host),
          (c.envPrefix ++ "_" ++ "PORT", toString c.port.toNat),
          (c.envPrefix ++ "_" ++ "DATABASE", c.database),
          (c.envPrefix ++ "_" ++ "USERNAME", c.username),
          (c.envPrefix ++ "_" ++ "URL", url.render),
          (c.envPrefix ++ "_" ++ "JDBC_URL", jdbcUrl),
          ("PGSSLMODE", "verify-ca"), ("PGSSLROOTCERT", c.paths.rootCert),
          ("PGSSLCERT", c.paths.cert), ("PGSSLKEY", c.paths.privateKey), ("PGHOSTADDR", c.host),
          ("PGPORT", toString c.port.toNat), ("PGPASSWORD", c.password),
          ("PGDATABASE", c.database), ("PGUSER", c.username)] ∧
        (entries.map Prod.fst).Nodup ∧ environment.entries.Perm entries ∧
        environment.size = 16 ∧
        (∀ copy ∈ [("PASSWORD", "PGPASSWORD"), ("HOST", "PGHOSTADDR"), ("PORT", "PGPORT"),
            ("DATABASE", "PGDATABASE"), ("USERNAME", "PGUSER")],
          ∃ value, environment.get? (c.envPrefix ++ "_" ++ copy.1) = some value ∧
            environment.get? copy.2 = some value) ∧
        UrlParts.split? url.render.toList = some p ∧ UrlParts.split? jdbcUrl.toList = some q ∧
        p.host = q.host ∧ p.port = q.port ∧ p.path = q.path ∧ p.query = some query ∧
        (∀ file ∈ [("sslcert", "PGSSLCERT"), ("sslkey", "PGSSLKEY"),
            ("sslrootcert", "PGSSLROOTCERT")],
          ∃ value, Form.value? file.1 query = some value ∧ environment.get? file.2 = some value) ∧
        Form.readable query = inherited ++ [("sslcert", c.paths.cert),
          ("sslkey", c.paths.privateKey), ("sslmode", "verify-ca"),
          ("sslrootcert", c.paths.rootCert)] ∧
        ('?' ∉ c.host.toList → inherited = []) := by
  refine ⟨fun _ => environment_eq_error_iff, fun environment henv => ?_⟩
  obtain ⟨url, jdbcUrl, hurl, hjdbcUrl, rfl⟩ := environment_eq_ok_iff.mp henv
  obtain ⟨server, hserver, hcontinues⟩ := url_eq_ok hurl
  obtain ⟨server', driverUrl, hserver', hcontinues', rfl⟩ := jdbcUrl_eq_ok hjdbcUrl
  obtain rfl := Except.ok.inj (hserver.symm.trans hserver')
  obtain ⟨query, hquery, hreadable⟩ := hcontinues.exists_query (by simp [parameters])
  have hnodup := nodup_names_entries c url.render ("jdbc:" ++ driverUrl.render)
  have hperm := SortedMap.perm_entries_ofList hnodup
  have hget : ∀ name value, (name, value) ∈ c.entries url.render ("jdbc:" ++ driverUrl.render) →
      (SortedMap.ofList (c.entries url.render ("jdbc:" ++ driverUrl.render))).get? name =
        some value := fun _ _ => get?_entries_eq_some_iff.mpr
  refine ⟨url, _, _, _, _, query, _, hurl, hjdbcUrl, rfl, hnodup, hperm, hperm.length_eq, ?_,
    Url.split?_render hcontinues.separable.encoded fun _ => hcontinues.separable.colons,
    Url.split?_jdbc_render hcontinues'.separable.encoded fun _ => hcontinues'.separable.colons,
    ?_, ?_, ?_, hquery, ?_, hreadable, fun hmark => ?_⟩
  · intro copy hcopy
    obtain ⟨value, hprefixed, hclient⟩ := copies_agree c url.render _ copy hcopy
    exact ⟨value, hget _ _ hprefixed, hget _ _ hclient⟩
  · exact congrArg (·.getD []) (hcontinues.host.trans hcontinues'.host.symm)
  · exact congrArg (·.map (Nat.toDigits 10)) (hcontinues.port.trans hcontinues'.port.symm)
  · exact hcontinues.path.trans hcontinues'.path.symm
  · intro file hfile
    obtain ⟨value, hvalue, hclient⟩ := files_agree hreadable url.render _ file hfile
    exact ⟨value, hvalue, hget _ _ hclient⟩
  · rw [(Url.separable_of_ofServer hserver).2 hmark]
    rfl

end Connection

namespace Sample

/-- A connection whose prefix looks like other variables, and whose host brings a user and
parameters along. -/
def intruding : Connection where
  envPrefix := "PGPASSWORD_JDBC"
  host := "evil@db.example?sslcert=/evil&sslmode=disable#"
  database := "main"
  username := "app"
  password := "secret"
  paths := ⟨"/cert.pem", "/key.pem", "/key.pk8", "/root.pem"⟩

end Sample

namespace Connection

open Sample

/-- Parameters that the host brings along do not count, and no variable is lost. -/
theorem variables_agree_of_intruding :
    ∃ environment url p query inherited, intruding.environment = .ok environment ∧
      environment.size = 16 ∧
      (∃ password, environment.get? "PGPASSWORD_JDBC_PASSWORD" = some password ∧
        environment.get? "PGPASSWORD" = some password) ∧
      intruding.url = .ok url ∧ UrlParts.split? url.render.toList = some p ∧
      p.query = some query ∧
      (∃ file, Form.value? "sslcert" query = some file ∧
        environment.get? "PGSSLCERT" = some file) ∧
      Form.readable query = inherited ++ [("sslcert", "/cert.pem"), ("sslkey", "/key.pem"),
        ("sslmode", "verify-ca"), ("sslrootcert", "/root.pem")] := by
  have hok : intruding.environment.isOk = true := by
    rw [isOk_environment]
    decide
  cases henv : intruding.environment with
  | error e =>
    rw [henv] at hok
    cases hok
  | ok environment =>
    obtain ⟨url, -, -, p, -, query, inherited, hurl, -, -, -, -, hsize, hcopies, hsplit, -, -, -,
      -, hquery, hfiles, hreadable, -⟩ := (variables_agree intruding).2 environment henv
    exact ⟨environment, url, p, query, inherited, rfl, hsize, hcopies _ List.mem_cons_self, hurl,
      hsplit, hquery, hfiles _ List.mem_cons_self, hreadable⟩

end Connection

end SqlOperator
