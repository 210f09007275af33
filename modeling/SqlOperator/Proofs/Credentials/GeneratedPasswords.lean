import SqlOperator.Proofs.Credentials.Contents
import SqlOperator.Proofs.Credentials.Injection
import SqlOperator.Proofs.Text.Base64Decoding
import SqlOperator.Proofs.Text.PercentDecoding

/-!
# Generated passwords

A generated password is the text of 32 random bytes, and these are read back from it. Its
characters are digits of URL-safe Base64. None of the encoders on the way to a workload has to
escape them, so that every client finds the same text, whether it reads a variable or cuts a
URL, and decodes what it has cut or not.
-/

namespace SqlOperator

open Text

namespace Text.Base64

/-- The characters of URL-safe Base64: letters and digits of ASCII, `-` and `_`. -/
def IsUrlSafe (c : Char) : Prop := c.isAlphanum = true ∨ c = '-' ∨ c = '_'

instance : DecidablePred IsUrlSafe := fun _ => inferInstanceAs (Decidable (_ ∨ _))

theorem isUrlSafe_digit : ∀ n < 64, IsUrlSafe (digit .urlSafe n) := by decide

/-- No digit is escaped in user information or in a parameter. -/
theorem digit_stays : ∀ n < 64, Percent.isUserinfoEscaped (digit .urlSafe n) = false ∧
    (String.utf8EncodeChar (digit .urlSafe n)).flatMap Form.encodeByte =
      [digit .urlSafe n] := by
  decide +kernel

end Text.Base64

namespace PasswordSeed

variable {seed other : PasswordSeed}

theorem exists_digit {c : Char} (h : c ∈ seed.password.toList) :
    ∃ n < 64, c = Base64.digit .urlSafe n := by
  rw [password, String.toList_ofList] at h
  exact Base64.exists_digit_of_mem_encode_false h

theorem length_password (seed : PasswordSeed) : seed.password.length = 43 := by
  rw [← String.length_toList, password, String.toList_ofList, Base64.length_encode_false,
    seed.length_eq]

/-- The bytes are read back from their password. -/
theorem decodeUnpadded?_password (seed : PasswordSeed) :
    Base64.decodeUnpadded? .urlSafe seed.password.toList = some seed.bytes := by
  rw [password, String.toList_ofList, Base64.decodeUnpadded?_encode Base64.readable_urlSafe]

theorem password_injective (h : seed.password = other.password) : seed = other := by
  have hbytes := congrArg (fun text => Base64.decodeUnpadded? .urlSafe text.toList) h
  simp only [decodeUnpadded?_password, Option.some.injEq] at hbytes
  cases seed
  cases other
  cases hbytes
  rfl

/-- No character of a generated password is escaped in user information. -/
theorem encode_password (seed : PasswordSeed) :
    Percent.encode Percent.isUserinfoEscaped seed.password.toList = seed.password.toList := by
  refine Percent.encode_eq_self fun c hc => ?_
  obtain ⟨n, hn, rfl⟩ := exists_digit hc
  exact (Base64.digit_stays n hn).1

/-- No character of a generated password is escaped in a parameter. -/
theorem encodeText_password (seed : PasswordSeed) :
    Form.encodeText seed.password = seed.password.toList := by
  have hstays : ∀ cs : List Char, (∀ c ∈ cs, ∃ n < 64, c = Base64.digit .urlSafe n) →
      (utf8 cs).flatMap Form.encodeByte = cs := by
    intro cs hcs
    induction cs with
    | nil => rfl
    | cons c rest ih =>
      obtain ⟨⟨n, hn, rfl⟩, hrest⟩ := List.forall_mem_cons.mp hcs
      rw [utf8_cons, List.flatMap_append, (Base64.digit_stays n hn).2, ih hrest]
      rfl
  rw [Form.encodeText, ← utf8_toList, hstays _ fun c hc => exists_digit hc]

end PasswordSeed

namespace Connection

variable {c : Connection} {seed : PasswordSeed} {a : IpAddress}

/-- The environment for an address literal has these two URLs. -/
theorem environment_of_literal (h : IpAddress.parse? c.host.toList = some a)
    (hp : c.password = seed.password) :
    c.environment = .ok (.ofList (c.entries
      (urlTo a c.port c.username (some seed.password) c.database c.parameters).render
      ("jdbc:" ++ (urlTo a c.port "" none c.database c.driverParameters).render))) := by
  have hgiven : (if c.password.isEmpty then none else some c.password) = some seed.password := by
    rw [hp, if_neg (by simpa using seed.password_ne_empty)]
  have hurl := url_eq h
  rw [hgiven] at hurl
  rw [environment, hurl, jdbcUrl, driverUrl_eq h]
  rfl

/-- The user information of the URL has the password as it is, behind the first colon. -/
theorem userinfo?_urlTo (a : IpAddress) (port : UInt16) (username : String)
    (seed : PasswordSeed) (database : String) (parameters : List (String × String)) :
    ∃ userinfo, (urlTo a port username (some seed.password) database parameters).userinfo? =
        some userinfo ∧
      UrlParts.cutOff ':' userinfo =
        (Percent.encode Percent.isUserinfoEscaped username.toList, some seed.password.toList) := by
  have hcolon : ':' ∉ Percent.encode Percent.isUserinfoEscaped username.toList := fun hm =>
    absurd (Percent.not_escaped_of_mem_encode (by decide) hm) (by decide)
  refine ⟨_ ++ ':' :: seed.password.toList, ?_, UrlParts.cutOff_append hcolon _⟩
  rw [← seed.encode_password]
  rfl

/-- The query of the URL for JDBC drivers starts with the password as it is, and has it
nowhere else. -/
theorem fields_driverParameters (hp : c.password = seed.password) :
    ∃ more, fields '&' (Form.encode c.driverParameters) =
        ("password=".toList ++ seed.password.toList) :: more ∧
      ∀ field ∈ more, ¬"password=".toList <+: field := by
  have hfirst : Form.encodeParameter ("password", c.password) =
      "password=".toList ++ seed.password.toList := by
    rw [Form.encodeParameter, hp, seed.encodeText_password]
    rfl
  refine ⟨c.driverParameters.tail.map Form.encodeParameter, ?_, fun field hfield hstarts => ?_⟩
  · rw [Form.fields_encode (by simp [driverParameters]), ← hfirst]
    rfl
  · obtain ⟨p, hmem, rfl⟩ := List.mem_map.mp hfield
    -- The other names start with another letter.
    have hname : ∀ p ∈ c.driverParameters.tail,
        ∃ letter more, Form.encodeText p.1 = letter :: more ∧ letter ≠ 'p' := by
      simp only [driverParameters, List.tail_cons, List.forall_mem_cons]
      exact ⟨⟨_, _, rfl, by decide⟩, ⟨_, _, rfl, by decide⟩, ⟨_, _, rfl, by decide⟩,
        ⟨_, _, rfl, by decide⟩, ⟨_, _, rfl, by decide⟩, List.forall_mem_nil _⟩
    obtain ⟨letter, more, hletter, hne⟩ := hname p hmem
    rw [Form.encodeParameter, hletter] at hstarts
    exact hne (List.cons_prefix_cons.mp hstarts).1.symm

end Connection

namespace PasswordSeed

open Connection

/-- Generated passwords are faithful and inert. A password is 43 characters of URL-safe Base64
that are read back as its bytes, so that other bytes give another password. If the host is an
address literal, the text of the password is in all four places of the environment where a
client looks for it, in the two URLs without having been encoded. And a secret with that
environment has it as the password that stays, whatever prefix it is asked for. -/
theorem password_faithful (seed : PasswordSeed) :
    seed.password.length = 43 ∧
    (∀ char ∈ seed.password.toList, Base64.IsUrlSafe char) ∧
    Base64.decodeUnpadded? .urlSafe seed.password.toList = some seed.bytes ∧
    (∀ other : PasswordSeed, other.bytes ≠ seed.bytes → other.password ≠ seed.password) ∧
    ∀ (c : Connection) (a : IpAddress), IpAddress.parse? c.host.toList = some a →
      c.password = seed.password →
      ∃ environment url jdbcUrl p q, c.environment = .ok environment ∧
        environment.get? (variableName c.envPrefix "PASSWORD") = some seed.password ∧
        environment.get? "PGPASSWORD" = some seed.password ∧
        (environment.get? (variableName c.envPrefix "URL") = some url ∧
          UrlParts.split? url.toList = some p ∧
          ∃ userinfo username, p.userinfo = some userinfo ∧
            UrlParts.cutOff ':' userinfo = (username, some seed.password.toList)) ∧
        (environment.get? (variableName c.envPrefix "JDBC_URL") = some jdbcUrl ∧
          UrlParts.split? jdbcUrl.toList = some q ∧
          ∃ query more, q.query = some query ∧
            fields '&' query = ("password=".toList ++ seed.password.toList) :: more ∧
            ∀ field ∈ more, ¬"password=".toList <+: field) ∧
        ∀ secret : Secret, secret.data = some (User.secretData environment) →
          ∀ envPrefix, secret.password? (variableName envPrefix "PASSWORD") =
            some seed.password := by
  refine ⟨seed.length_password, fun char hchar => ?_, seed.decodeUnpadded?_password,
    fun other hne heq => hne (congrArg bytes (password_injective heq)),
    fun c a hliteral hp => ?_⟩
  · obtain ⟨n, hn, rfl⟩ := exists_digit hchar
    exact Base64.isUrlSafe_digit n hn
  · let url := urlTo a c.port c.username (some seed.password) c.database c.parameters
    let driverUrl := urlTo a c.port "" none c.database c.driverParameters
    have henv := environment_of_literal hliteral hp
    obtain ⟨userinfo, huserinfo, hcut⟩ :=
      userinfo?_urlTo a c.port c.username seed c.database c.parameters
    obtain ⟨more, hfields, hmore⟩ := fields_driverParameters hp
    refine ⟨_, url.render, "jdbc:" ++ driverUrl.render, _, _, henv,
      get?_entries_eq_some_iff.mpr (by simp [entries, hp]),
      get?_entries_eq_some_iff.mpr (by simp [entries, sharedPasswordKey, hp]),
      ⟨get?_entries_eq_some_iff.mpr (by simp [entries, url]),
        Url.split?_render (encoded_urlTo ..) nofun, userinfo, _, huserinfo, hcut⟩,
      ⟨get?_entries_eq_some_iff.mpr (by simp [entries, driverUrl]),
        Url.split?_jdbc_render (encoded_urlTo ..) nofun, _, more, rfl, hfields, hmore⟩,
      fun secret hdata envPrefix => ?_⟩
    have hne : c.password ≠ "" := hp ▸ seed.password_ne_empty
    rw [User.password?_of_keeps (User.keeps_of_secretData henv hdata) hne envPrefix, hp]

end PasswordSeed

namespace Sample

/-- Bytes of which the password has both characters that are neither letters nor digits. -/
def dashes : PasswordSeed := ⟨0xfb :: 0xef :: List.replicate 30 0xff, by decide⟩

end Sample

namespace PasswordSeed

open Connection Sample

/-- A password with dashes and underscores stays what it is among hostile texts. -/
theorem password_faithful_of_dashes :
    dashes.password = "--________________________________________8" ∧
      IpAddress.parse? hostile.host.toList = some mappedAddress ∧
      ∃ environment url p, { hostile with password := dashes.password }.environment =
          .ok environment ∧
        environment.get? "DB_PASSWORD" = some dashes.password ∧
        environment.get? "DB_URL" = some url ∧ UrlParts.split? url.toList = some p ∧
        ∃ userinfo username, p.userinfo = some userinfo ∧
          UrlParts.cutOff ':' userinfo = (username, some dashes.password.toList) := by
  have hliteral : IpAddress.parse? hostile.host.toList = some mappedAddress := by decide
  obtain ⟨-, -, -, -, hstays⟩ := password_faithful dashes
  obtain ⟨environment, url, -, p, -, henv, hpassword, -, ⟨hurl, hsplit, hcut⟩, -⟩ :=
    hstays { hostile with password := dashes.password } mappedAddress hliteral rfl
  exact ⟨by decide, hliteral, environment, url, p, henv, hpassword, hurl, hsplit, hcut⟩

end PasswordSeed

end SqlOperator
