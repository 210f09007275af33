import SqlOperator.Credentials.Connection
import SqlOperator.Proofs.Net.ServerUrls
import SqlOperator.Proofs.Text.FormDecoding

/-!
# Connection strings cannot be injected into

User name, password, database and paths may be any texts. They enter the two URLs of a
connection in three places, each with an encoding of its own, and no character of them is
taken for a delimiter: whoever takes the URLs apart finds the address, the port and the
parameters that were put in, and no others.
-/

namespace SqlOperator

/-- The host of a URL denotes the address: as a literal, in brackets if it is one of IPv6. -/
def IpAddress.DenotedBy (host : List Char) : IpAddress → Prop
  | .v4 x => Ipv4Address.parse? host = some x
  | .v6 x => ∃ literal, host = '[' :: (literal ++ [']']) ∧ Ipv6Address.parse? literal = some x

theorem IpAddress.denotedBy_urlHost (a : IpAddress) : a.DenotedBy a.urlHost := by
  cases a with
  | v4 x => exact Ipv4Address.parse?_render x
  | v6 x => exact ⟨x.render, rfl, Ipv6Address.parse?_render x⟩

/-- The parts of a URL lead to the server with the address and port, with exactly the given
parameters and no fragment. -/
structure UrlParts.LeadTo (p : UrlParts) (a : IpAddress) (port : UInt16)
    (parameters : List (String × String)) : Prop where
  host : a.DenotedBy p.host
  port : ∃ digits, p.port = some digits ∧ Text.decimal? digits = some port.toNat
  path : IsPath p.path
  query : ∃ query, p.query = some query ∧ Text.Form.decode? query = some parameters
  fragment : p.fragment = none

namespace Url

theorem setUsername_of_no_username {u : Url} (hu : u.username = []) (hhost : u.host.isSome)
    (username : String) :
    u.setUsername username = .ok { u with
      username := Text.Percent.encode Text.Percent.isUserinfoEscaped username.toList } := by
  obtain ⟨none, password, host, port, path, query, fragment⟩ := u
  have hsome : host.isNone = false := by simpa using hhost
  obtain rfl : none = [] := hu
  rw [setUsername, hsome, if_neg Bool.false_ne_true]
  split
  · rename_i hsame
    rw [← show [] = username.toList from hsame]
    rfl
  · rfl

theorem setPassword_of_host {u : Url} (hhost : u.host.isSome) (password : String) :
    u.setPassword password = .ok { u with
      password := (if password.isEmpty then none else some password).map fun password =>
        Text.Percent.encode Text.Percent.isUserinfoEscaped password.toList } := by
  have hsome : u.host.isNone = false := by simpa using hhost
  rw [setPassword, hsome, if_neg Bool.false_ne_true]
  cases password.isEmpty <;> rfl

end Url

namespace Connection

variable {c : Connection} {a : IpAddress}

/-- The parameters of the URL. -/
def parameters (c : Connection) : List (String × String) :=
  [("sslcert", c.paths.cert), ("sslkey", c.paths.privateKey), ("sslmode", "verify-ca"),
    ("sslrootcert", c.paths.rootCert)]

/-- The parameters of the URL for JDBC drivers. -/
def driverParameters (c : Connection) : List (String × String) :=
  [("password", c.password), ("sslcert", c.paths.cert), ("sslkey", c.paths.convertedKey),
    ("sslmode", "verify-ca"), ("sslrootcert", c.paths.rootCert), ("user", c.username)]

/-- A URL for a server, with user information, a path and parameters. -/
def urlTo (a : IpAddress) (port : UInt16) (username : String) (password : Option String)
    (database : String) (parameters : List (String × String)) : Url where
  username := Text.Percent.encode Text.Percent.isUserinfoEscaped username.toList
  password := password.map fun password =>
    Text.Percent.encode Text.Percent.isUserinfoEscaped password.toList
  host := some a.urlHost
  port := some port.toNat
  path := Url.readPath database.toList
  query := some (Text.Form.encode parameters)

theorem driverUrl_eq (h : IpAddress.parse? c.host.toList = some a) :
    c.driverUrl = .ok (urlTo a c.port "" none c.database c.driverParameters) := by
  rw [driverUrl, Url.ofServer_literal h]
  rfl

theorem url_eq (h : IpAddress.parse? c.host.toList = some a) :
    c.url = .ok (urlTo a c.port c.username (if c.password.isEmpty then none else some c.password)
      c.database c.parameters) := by
  let server : Url := { host := some a.urlHost, port := some c.port.toNat }
  have husername := Url.setUsername_of_no_username (u := server) rfl rfl c.username
  have hpassword := Url.setPassword_of_host (u := { server with
    username := Text.Percent.encode Text.Percent.isUserinfoEscaped c.username.toList })
    rfl c.password
  rw [url, Url.ofServer_literal h]
  simp only [bind, Except.bind]
  rw [husername]
  dsimp only
  rw [hpassword]
  rfl

/-- The parts of the URL are encoded. -/
theorem encoded_urlTo (a : IpAddress) (port : UInt16) (username : String)
    (password : Option String) (database : String) (parameters : List (String × String)) :
    (urlTo a port username password database parameters).Encoded where
  username _ hc := (Text.Percent.not_endsAuthority_of_mem_encode hc).1
  password c hc := by
    cases password with
    | none => cases hc
    | some password => exact (Text.Percent.not_endsAuthority_of_mem_encode hc).1
  host c hc := by
    have hchar : ∀ {c}, IsAddressChar c → Url.endsAuthority c = false ∧ c ≠ '@' := fun h =>
      (Url.isInert_of_isAddressChar h).2
    cases a with
    | v4 x => exact hchar (Ipv4Address.isAddressChar_of_mem_render hc)
    | v6 x =>
      rcases List.mem_cons.mp hc with rfl | hc
      · decide
      rcases List.mem_append.mp hc with hc | hc
      · exact hchar (Ipv6Address.isAddressChar_of_mem_render hc)
      · obtain rfl := List.mem_singleton.mp hc
        decide
  path := Url.isPath_readPath _
  unmarked := ⟨Url.notMem_readPath (.inl rfl) _, Url.notMem_readPath (.inr rfl) _⟩
  query := Text.Form.hash_notMem_encode _

/-- The URL for a server comes apart into what it was put together from. -/
theorem exists_split?_urlTo (a : IpAddress) (port : UInt16) (username : String)
    (password : Option String) (database : String) (parameters : List (String × String))
    (lead scheme : List Char)
    (hlead : ∀ rest, Text.cutFirst? [':', '/', '/'] (lead ++ "postgresql://".toList ++ rest) =
      some (scheme, rest)) :
    let u := urlTo a port username password database parameters
    ∃ p, UrlParts.split? (lead ++ u.write) = some p ∧ p.scheme = scheme ∧
      p.userinfo = u.userinfo? ∧ p.LeadTo a port parameters := by
  intro u
  refine ⟨_, Url.split?_append_write (encoded_urlTo ..) nofun hlead, rfl, rfl, ?_⟩
  exact {
    host := a.denotedBy_urlHost
    port := ⟨_, rfl, Text.decimal?_toDigits _⟩
    path := Url.isPath_readPath _
    query := ⟨_, rfl, Text.Form.decode?_encode parameters⟩
    fragment := rfl }

/-- Connection strings cannot be injected into. If the host is an address literal, both URLs
can be written whatever the user name, password, database and paths are, and they come apart
into their scheme, the address, the port, a path and exactly the parameters that they should
have. The URL for JDBC drivers has no user information. -/
theorem urls_lead_to_server (c : Connection) {a : IpAddress}
    (h : IpAddress.parse? c.host.toList = some a) :
    (∃ url p, c.url = .ok url ∧ UrlParts.split? url.render.toList = some p ∧
      p.scheme = "postgresql".toList ∧
      p.LeadTo a c.port
        [("sslcert", c.paths.cert), ("sslkey", c.paths.privateKey), ("sslmode", "verify-ca"),
          ("sslrootcert", c.paths.rootCert)]) ∧
    ∃ text p, c.jdbcUrl = .ok text ∧ UrlParts.split? text.toList = some p ∧
      p.scheme = "jdbc:postgresql".toList ∧ p.userinfo = none ∧
      p.LeadTo a c.port
        [("password", c.password), ("sslcert", c.paths.cert), ("sslkey", c.paths.convertedKey),
          ("sslmode", "verify-ca"), ("sslrootcert", c.paths.rootCert), ("user", c.username)] := by
  constructor
  · obtain ⟨p, hsplit, hscheme, -, hleads⟩ := exists_split?_urlTo a c.port c.username
      (if c.password.isEmpty then none else some c.password) c.database c.parameters
      [] "postgresql".toList fun _ => rfl
    refine ⟨_, p, url_eq h, ?_, hscheme, hleads⟩
    rw [Url.render, String.toList_ofList]
    exact hsplit
  · obtain ⟨p, hsplit, hscheme, huserinfo, hleads⟩ := exists_split?_urlTo a c.port "" none
      c.database c.driverParameters "jdbc:".toList "jdbc:postgresql".toList fun _ => rfl
    have hurl : c.jdbcUrl =
        .ok ("jdbc:" ++ (urlTo a c.port "" none c.database c.driverParameters).render) := by
      rw [jdbcUrl, driverUrl_eq h]
      rfl
    refine ⟨_, p, hurl, ?_, hscheme, huserinfo, hleads⟩
    rw [Url.render, String.toList_append, String.toList_ofList (l := Url.write _)]
    exact hsplit

end Connection

namespace Sample

/-- A connection to a mapped address whose texts try to end the parts that they are in. -/
def hostile : Connection where
  envPrefix := "DB"
  host := "::ffff:10.0.0.1"
  database := "?sslmode=disable#/../x"
  username := "app@evil.example:1/"
  password := "secret&sslmode=disable"
  paths := ⟨"/c?a=b&d", "/k#", "/k.pk8 +%41", "//r@"⟩

/-- An IPv4 address as one of IPv6. -/
def mappedAddress : IpAddress := .v6 ⟨[0, 0, 0, 0, 0, 0xffff, 0x0a00, 1], rfl⟩

end Sample

namespace Connection

open Sample

/-- Texts with every kind of delimiter do not lead elsewhere. -/
theorem urls_lead_to_server_of_hostile :
    IpAddress.parse? hostile.host.toList = some mappedAddress ∧
      (∃ url p, hostile.url = .ok url ∧ UrlParts.split? url.render.toList = some p ∧
        p.LeadTo mappedAddress 5432
          [("sslcert", "/c?a=b&d"), ("sslkey", "/k#"), ("sslmode", "verify-ca"),
            ("sslrootcert", "//r@")]) ∧
      ∃ text p, hostile.jdbcUrl = .ok text ∧ UrlParts.split? text.toList = some p ∧
        p.LeadTo mappedAddress 5432
          [("password", "secret&sslmode=disable"), ("sslcert", "/c?a=b&d"),
            ("sslkey", "/k.pk8 +%41"), ("sslmode", "verify-ca"), ("sslrootcert", "//r@"),
            ("user", "app@evil.example:1/")] := by
  have hliteral : IpAddress.parse? hostile.host.toList = some mappedAddress := by decide
  obtain ⟨⟨url, p, hurl, hsplit, -, hleads⟩, text, q, htext, hsplit', -, -, hleads'⟩ :=
    urls_lead_to_server hostile hliteral
  exact ⟨hliteral, ⟨url, p, hurl, hsplit, hleads⟩, text, q, htext, hsplit', hleads'⟩

end Connection

end SqlOperator
