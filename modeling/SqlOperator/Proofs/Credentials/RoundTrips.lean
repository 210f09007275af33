import SqlOperator.Proofs.Credentials.Contents
import SqlOperator.Proofs.Credentials.Injection
import SqlOperator.Proofs.Net.PathNames

/-!
# What comes back from connection strings

An environment tells user name, password and database twice, as variables of their own and in
its URLs. A client that takes a URL apart and undoes the encoding of the parts should find what
the variables have. User name and password come back exactly if neither has an escape of its
own, and the database comes back exactly if it is nothing but a name.
-/

namespace SqlOperator

open Text Text.Percent

namespace UrlParts

/-- User name and password as a client reads them from the user information. -/
def credentials (p : UrlParts) : Bytes × Bytes :=
  let (username, password) := cutOff ':' (p.userinfo.getD [])
  (decode username, decode (password.getD []))

/-- The name of the database as a client reads it from the path. -/
def database (p : UrlParts) : Bytes := decode (Url.nameIn p.path)

end UrlParts

namespace Connection

/-- Whether the user name and the password are texts without escapes. -/
def HasPlainCredentials (c : Connection) : Prop :=
  hasEscape c.username.toList = false ∧ hasEscape c.password.toList = false

instance : DecidablePred HasPlainCredentials := fun _ => inferInstanceAs (Decidable (_ ∧ _))

/-- The texts of both URLs, their parts, and what a client reads from them. -/
structure Publishes (c : Connection) (url jdbcUrl : String) (p q : UrlParts) : Prop where
  environment : c.environment = .ok (.ofList (c.entries url jdbcUrl))
  url : UrlParts.split? url.toList = some p
  jdbcUrl : UrlParts.split? jdbcUrl.toList = some q
  credentials : p.credentials = (decode c.username.toList, decode c.password.toList)
  path : p.path = Url.readPath c.database.toList
  jdbcPath : q.path = Url.readPath c.database.toList

variable {c d : Connection} {a b : IpAddress} {url jdbcUrl text : String} {p q : UrlParts}
  {environment : TextMap}

theorem credentials_of_userinfo {username : String} {password : Option String}
    {port : UInt16} {database : String} {parameters : List (String × String)}
    (h : p.userinfo = (urlTo a port username password database parameters).userinfo?) :
    p.credentials = (decode username.toList, decode (password.getD "").toList) := by
  have hcolon : ':' ∉ encode isUserinfoEscaped username.toList := fun hm =>
    absurd (not_escaped_of_mem_encode (by decide) hm) (by decide)
  have hread := sparesEscapes_isUserinfoEscaped.decode_encode
  cases password with
  | some password =>
    have huserinfo : p.userinfo.getD [] = encode isUserinfoEscaped username.toList ++
        ':' :: encode isUserinfoEscaped password.toList := by
      rw [h]
      rfl
    simp only [UrlParts.credentials, huserinfo, UrlParts.cutOff_append hcolon, hread,
      Option.getD_some]
  | none =>
    have huserinfo : p.userinfo.getD [] = encode isUserinfoEscaped username.toList := by
      rw [h]
      cases hempty : encode isUserinfoEscaped username.toList with
      | nil => simp [Url.userinfo?, urlTo, hempty]
      | cons => simp [Url.userinfo?, urlTo, hempty]
    simp only [UrlParts.credentials, huserinfo, UrlParts.cutOff_of_notMem hcolon, hread,
      Option.getD_none]
    rfl

theorem exists_parts_urlTo (a : IpAddress) (port : UInt16) (username : String)
    (password : Option String) (database : String) (parameters : List (String × String))
    (lead scheme : List Char)
    (hlead : ∀ rest, cutFirst? [':', '/', '/'] (lead ++ "postgresql://".toList ++ rest) =
      some (scheme, rest)) :
    ∃ p, UrlParts.split? (lead ++ (urlTo a port username password database parameters).write) =
        some p ∧
      p.credentials = (decode username.toList, decode (password.getD "").toList) ∧
      p.path = Url.readPath database.toList :=
  ⟨_, Url.split?_append_write (encoded_urlTo ..) nofun hlead,
    credentials_of_userinfo rfl, rfl⟩

/-- With an address literal for the host there is an environment, whose URLs come apart. -/
theorem exists_publishes (h : IpAddress.parse? c.host.toList = some a) :
    ∃ url jdbcUrl p q, c.Publishes url jdbcUrl p q := by
  obtain ⟨p, hp, hcredentials, hpath⟩ := exists_parts_urlTo a c.port c.username
    (if c.password.isEmpty then none else some c.password) c.database c.parameters
    [] "postgresql".toList fun _ => rfl
  obtain ⟨q, hq, -, hpath'⟩ := exists_parts_urlTo a c.port "" none c.database
    c.driverParameters "jdbc:".toList "jdbc:postgresql".toList fun _ => rfl
  have hpassword : (if c.password.isEmpty then none else some c.password).getD "" =
      c.password := by
    split
    · rename_i hempty
      exact (String.isEmpty_iff.mp hempty).symm
    · rfl
  have hjdbcUrl : c.jdbcUrl =
      .ok ("jdbc:" ++ (urlTo a c.port "" none c.database c.driverParameters).render) := by
    rw [jdbcUrl, driverUrl_eq h]
    rfl
  refine ⟨_, _, p, q, {
    environment := by rw [Connection.environment, url_eq h, hjdbcUrl]; rfl
    url := ?_
    jdbcUrl := ?_
    credentials := by rw [hcredentials, hpassword]
    path := hpath
    jdbcPath := hpath' }⟩
  · rw [Url.render, String.toList_ofList]
    exact hp
  · rw [Url.render, String.toList_append, String.toList_ofList (l := Url.write _)]
    exact hq

namespace Publishes

variable (h : c.Publishes url jdbcUrl p q)

include h

/-- A connection with the same URL has the same parts of it. -/
theorem exists_of_url_eq (hd : IpAddress.parse? d.host.toList = some b)
    (henv : d.environment = .ok environment)
    (hurl : environment.get? (variableName d.envPrefix "URL") = some url) :
    ∃ jdbcUrl q, d.Publishes url jdbcUrl p q := by
  obtain ⟨url', jdbcUrl', p', q', h'⟩ := exists_publishes hd
  rw [h'.environment] at henv
  rw [← Except.ok.inj henv, get?_entries_eq_some_iff] at hurl
  obtain rfl : url = url' := value_eq_of_mem_entries (c := d) (by simp [entries]) hurl
  obtain rfl : p = p' := Option.some.inj (h.url.symm.trans h'.url)
  exact ⟨jdbcUrl', q', h'⟩

/-- User name and password come back exactly if they have no escapes in them. -/
theorem credentials_eq_iff :
    p.credentials = (.ofText c.username, .ofText c.password) ↔ c.HasPlainCredentials := by
  rw [h.credentials, Prod.mk.injEq, ← utf8_toList, ← utf8_toList, decode_eq_utf8_iff,
    decode_eq_utf8_iff]
  rfl

/-- The database comes back exactly if it is the name of a path. -/
theorem database_eq_iff :
    p.database = .ofText c.database ↔ Url.IsPathName c.database.toList := by
  rw [UrlParts.database, h.path, ← utf8_toList, Url.decode_nameIn_readPath_iff]

end Publishes

/-- User name and password as a client reads them from the URL are the ones that the other
variables have exactly if neither has an escape. If so, no other such user name and password
give the same URL. -/
theorem credentials_come_back_iff (c : Connection) {a : IpAddress}
    (h : IpAddress.parse? c.host.toList = some a) :
    ∃ environment url p, c.environment = .ok environment ∧
      environment.get? (variableName c.envPrefix "URL") = some url ∧
      environment.get? (variableName c.envPrefix "USERNAME") = some c.username ∧
      environment.get? (variableName c.envPrefix "PASSWORD") = some c.password ∧
      UrlParts.split? url.toList = some p ∧
      p.credentials = (decode c.username.toList, decode c.password.toList) ∧
      (p.credentials = (.ofText c.username, .ofText c.password) ↔ c.HasPlainCredentials) ∧
      ∀ (d : Connection) (b : IpAddress) (environment' : TextMap),
        IpAddress.parse? d.host.toList = some b → d.environment = .ok environment' →
        environment'.get? (variableName d.envPrefix "URL") = some url →
        c.HasPlainCredentials → d.HasPlainCredentials →
        d.username = c.username ∧ d.password = c.password := by
  obtain ⟨url, jdbcUrl, p, q, hc⟩ := exists_publishes h
  refine ⟨_, url, p, hc.environment, ?_, ?_, ?_, hc.url, hc.credentials, hc.credentials_eq_iff,
    fun d b environment' hliteral henv hurl hplain hplain' => ?_⟩
  · exact get?_entries_eq_some_iff.mpr (by simp [entries])
  · exact get?_entries_eq_some_iff.mpr (by simp [entries])
  · exact get?_entries_eq_some_iff.mpr (by simp [entries])
  · obtain ⟨jdbcUrl', q', hd⟩ := hc.exists_of_url_eq hliteral henv hurl
    have hsame := (hd.credentials_eq_iff.mpr hplain').symm.trans (hc.credentials_eq_iff.mpr hplain)
    obtain ⟨husername, hpassword⟩ := Prod.mk.inj hsame
    exact ⟨Bytes.ofText_injective husername, Bytes.ofText_injective hpassword⟩

end Connection

namespace Sample

/-- A connection whose texts could be taken for encoded ones. -/
def escaping : Connection where
  envPrefix := "DB"
  host := "10.0.0.1"
  database := "%41"
  username := "app"
  password := "%41"
  paths := ⟨"/cert.pem", "/key.pem", "/key.pk8", "/root.pem"⟩

def plainAddress : IpAddress := .v4 ⟨10, 0, 0, 1⟩

end Sample

namespace Connection

open Sample

/-- User name and password come back although they have delimiters. -/
theorem credentials_of_hostile_come_back :
    IpAddress.parse? hostile.host.toList = some mappedAddress ∧ hostile.HasPlainCredentials ∧
      ∃ environment url p, hostile.environment = .ok environment ∧
        environment.get? "DB_URL" = some url ∧
        environment.get? "DB_PASSWORD" = some "secret&sslmode=disable" ∧
        UrlParts.split? url.toList = some p ∧
        p.credentials = (.ofText "app@evil.example:1/", .ofText "secret&sslmode=disable") := by
  have hliteral : IpAddress.parse? hostile.host.toList = some mappedAddress := by decide
  have hplain : hostile.HasPlainCredentials := by decide
  obtain ⟨environment, url, p, henv, hurl, -, hpassword, hsplit, -, hiff, -⟩ :=
    credentials_come_back_iff hostile hliteral
  exact ⟨hliteral, hplain, environment, url, p, henv, hurl, hpassword, hsplit, hiff.mpr hplain⟩

/-- A password with an escape is read as another one, and can give the URL of another one. -/
theorem credentials_of_escaping_do_not_come_back :
    (∃ environment url p, escaping.environment = .ok environment ∧
      environment.get? "DB_URL" = some url ∧ environment.get? "DB_PASSWORD" = some "%41" ∧
      UrlParts.split? url.toList = some p ∧ p.credentials = (.ofText "app", .ofText "A")) ∧
    { escaping with password := "%20" }.url = { escaping with password := " " }.url := by
  constructor
  · obtain ⟨url, jdbcUrl, p, q, hc⟩ :=
      exists_publishes (c := escaping) (a := plainAddress) (by decide)
    refine ⟨_, url, p, hc.environment, ?_, ?_, hc.url, hc.credentials⟩
    · exact get?_entries_eq_some_iff.mpr (by simp [entries, variableName, escaping])
    · exact get?_entries_eq_some_iff.mpr (by simp [entries, variableName, escaping])
  · rfl

/-- The database as a client reads it from either URL is the one that the other variables have
exactly if it is nothing but a name. If so, no other such name gives the same URL. -/
theorem database_comes_back_iff (c : Connection) {a : IpAddress}
    (h : IpAddress.parse? c.host.toList = some a) :
    ∃ environment url jdbcUrl p q, c.environment = .ok environment ∧
      environment.get? (variableName c.envPrefix "URL") = some url ∧
      environment.get? (variableName c.envPrefix "JDBC_URL") = some jdbcUrl ∧
      environment.get? (variableName c.envPrefix "DATABASE") = some c.database ∧
      environment.get? "PGDATABASE" = some c.database ∧
      UrlParts.split? url.toList = some p ∧ UrlParts.split? jdbcUrl.toList = some q ∧
      p.path = q.path ∧
      (p.database = .ofText c.database ↔ Url.IsPathName c.database.toList) ∧
      ∀ (d : Connection) (b : IpAddress) (environment' : TextMap),
        IpAddress.parse? d.host.toList = some b → d.environment = .ok environment' →
        environment'.get? (variableName d.envPrefix "URL") = some url →
        Url.IsPathName c.database.toList → Url.IsPathName d.database.toList →
        d.database = c.database := by
  obtain ⟨url, jdbcUrl, p, q, hc⟩ := exists_publishes h
  refine ⟨_, url, jdbcUrl, p, q, hc.environment, ?_, ?_, ?_, ?_, hc.url, hc.jdbcUrl,
    hc.path.trans hc.jdbcPath.symm, hc.database_eq_iff,
    fun d b environment' hliteral henv hurl hname hname' => ?_⟩
  · exact get?_entries_eq_some_iff.mpr (by simp [entries])
  · exact get?_entries_eq_some_iff.mpr (by simp [entries])
  · exact get?_entries_eq_some_iff.mpr (by simp [entries])
  · exact get?_entries_eq_some_iff.mpr (by simp [entries])
  · obtain ⟨jdbcUrl', q', hd⟩ := hc.exists_of_url_eq hliteral henv hurl
    have hsame := (hd.database_eq_iff.mpr hname').symm.trans (hc.database_eq_iff.mpr hname)
    exact Bytes.ofText_injective hsame

/-- A name with slashes, dots and delimiters inside comes back. -/
theorem database_of_segments_comes_back :
    IpAddress.parse? escaping.host.toList = some plainAddress ∧
      ∃ environment url jdbcUrl p q,
        { escaping with database := "100% sure/a..b?c#d" }.environment = .ok environment ∧
        environment.get? "DB_URL" = some url ∧ environment.get? "DB_JDBC_URL" = some jdbcUrl ∧
        UrlParts.split? url.toList = some p ∧ UrlParts.split? jdbcUrl.toList = some q ∧
        p.path = q.path ∧ p.database = .ofText "100% sure/a..b?c#d" := by
  have hliteral : IpAddress.parse? escaping.host.toList = some plainAddress := by decide
  have hname : Url.IsPathName "100% sure/a..b?c#d".toList := by decide
  obtain ⟨environment, url, jdbcUrl, p, q, henv, hurl, hjdbcUrl, -, -, hsplit, hsplit', hpath,
    hiff, -⟩ := database_comes_back_iff { escaping with database := "100% sure/a..b?c#d" } hliteral
  exact ⟨hliteral, environment, url, jdbcUrl, p, q, henv, hurl, hjdbcUrl, hsplit, hsplit', hpath,
    hiff.mpr hname⟩

/-- A name with an escape is read as another one, one that starts like a query is lost, and a
slash in front or a dot segment does not make another URL. -/
theorem database_of_escaping_does_not_come_back :
    (∃ environment url p, escaping.environment = .ok environment ∧
      environment.get? "DB_URL" = some url ∧ environment.get? "DB_DATABASE" = some "%41" ∧
      UrlParts.split? url.toList = some p ∧ p.database = .ofText "A") ∧
    { escaping with database := "?main" }.url = { escaping with database := "" }.url ∧
    { escaping with database := "/main" }.url = { escaping with database := "main" }.url ∧
    { escaping with database := "test/../main" }.url =
      { escaping with database := "main" }.url := by
  refine ⟨?_, rfl, rfl, rfl⟩
  obtain ⟨url, jdbcUrl, p, q, hc⟩ :=
    exists_publishes (c := escaping) (a := plainAddress) (by decide)
  refine ⟨_, url, p, hc.environment, ?_, ?_, hc.url, ?_⟩
  · exact get?_entries_eq_some_iff.mpr (by simp [entries, variableName, escaping])
  · exact get?_entries_eq_some_iff.mpr (by simp [entries, variableName, escaping])
  · rw [UrlParts.database, hc.path]
    rfl

end Connection

end SqlOperator
