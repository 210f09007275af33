import SqlOperator.Net.Url
import SqlOperator.Proofs.Text.Cuts
import SqlOperator.Proofs.Text.Numerals

/-!
# Parts of a URL

Whoever reads a URL takes it apart at its delimiters: the authority is behind `//` and ends
at the first `/`, `?` or `#`; user information in it ends at the last `@`; the query starts
at the first `?`, and the fragment at the first `#`.

What `Url.write` writes comes apart into what was put in, if no part has a delimiter of its
own that ends it early. Percent-encoding sees to that.
-/

namespace SqlOperator

/-- The parts of a URL as its delimiters tell them apart, each in written form. -/
structure UrlParts where
  scheme : List Char
  userinfo : Option (List Char)
  host : List Char
  port : Option (List Char)
  path : List Char
  query : Option (List Char)
  fragment : Option (List Char)
  deriving DecidableEq

namespace UrlParts

/-- What is in front of the first `mark`, and what is behind it if it is there. -/
def cutOff (mark : Char) (cs : List Char) : List Char × Option (List Char) :=
  match Text.cutFirst? [mark] cs with
  | some (before, after) => (before, some after)
  | none => (cs, none)

/-- User information, and the rest of the authority. -/
def cutUserinfo (authority : List Char) : Option (List Char) × List Char :=
  match Text.cutLast? '@' authority with
  | some (userinfo, server) => (some userinfo, server)
  | none => (none, authority)

/-- Host and port. A colon in brackets is part of an address. -/
def cutPort (server : List Char) : List Char × Option (List Char) :=
  match Text.cutLast? ':' server with
  | some (host, port) => if ']' ∈ port then (server, none) else (host, some port)
  | none => (server, none)

/-- The parts of what follows the scheme and `://`. -/
def ofRest (scheme rest : List Char) : UrlParts :=
  let authority := rest.takeWhile fun c => !Url.endsAuthority c
  let (userinfo, server) := cutUserinfo authority
  let (host, port) := cutPort server
  let (before, fragment) := cutOff '#' (rest.dropWhile fun c => !Url.endsAuthority c)
  let (path, query) := cutOff '?' before
  { scheme, userinfo, host, port, path, query, fragment }

/-- The parts of a text that has a scheme and an authority. -/
def split? (text : List Char) : Option UrlParts :=
  (Text.cutFirst? [':', '/', '/'] text).map fun (scheme, rest) => ofRest scheme rest

variable {userinfo : Option (List Char)} {host path : List Char} {port : Option Nat}
  {query fragment : Option (List Char)}

theorem cutUserinfo_append {server : List Char} (h : '@' ∉ server) :
    cutUserinfo ((userinfo.map (· ++ ['@'])).getD [] ++ server) = (userinfo, server) := by
  cases userinfo with
  | none => simp [cutUserinfo, Text.cutLast?_of_notMem h]
  | some userinfo =>
    simp [cutUserinfo, Text.cutLast?_append_cons h]

/-- The host has colons in brackets only, which end it. -/
def HoldsColons (host : List Char) : Prop := ':' ∈ host → host.getLast? = some ']'

/-- A colon in brackets does not start a port. -/
theorem cutPort_of_holdsColons (h : HoldsColons host) : cutPort host = (host, none) := by
  unfold cutPort
  cases hcut : Text.cutLast? ':' host with
  | none => rfl
  | some cut =>
    obtain ⟨before, after⟩ := cut
    have hhost := Text.eq_append_of_cutLast? hcut
    have hlast := h (hhost ▸ List.mem_append_right _ List.mem_cons_self)
    have hbracket : ']' ∈ after := by
      rw [hhost] at hlast
      rcases List.eq_nil_or_concat after with rfl | ⟨init, last, rfl⟩
      · simp at hlast
      · rw [List.concat_eq_append, ← List.cons_append, ← List.append_assoc,
          List.getLast?_concat] at hlast
        simp [Option.some.inj hlast]
    simp [hbracket]

theorem cutPort_append_renderPart (h : port = none → HoldsColons host) :
    cutPort (host ++ Url.renderPart ':' (port.map (Nat.toDigits 10))) =
      (host, port.map (Nat.toDigits 10)) := by
  cases port with
  | none => simpa [Url.renderPart] using cutPort_of_holdsColons (h rfl)
  | some port =>
    have hdigits : ∀ c ∈ Nat.toDigits 10 port, Text.IsDigitOf 10 c :=
      fun _ => Text.isDigitOf_of_mem_toDigits (by decide)
    have hcolon : ':' ∉ Nat.toDigits 10 port := Text.notMem_of_isDigitOf hdigits (by decide)
    have hbracket : ']' ∉ Nat.toDigits 10 port := Text.notMem_of_isDigitOf hdigits (by decide)
    simp [cutPort, Url.renderPart, Text.cutLast?_append_cons hcolon, hbracket]

theorem cutOff_append {mark : Char} {before : List Char} (h : mark ∉ before) (after : List Char) :
    cutOff mark (before ++ mark :: after) = (before, some after) := by
  simp [cutOff, Text.cutFirst?_append_cons h]

theorem cutOff_of_notMem {mark : Char} {cs : List Char} (h : mark ∉ cs) :
    cutOff mark cs = (cs, none) := by
  simp [cutOff, Text.cutFirst?_of_notMem h]

/-- The path, if there is one, starts with a slash. -/
def IsPath (path : List Char) : Prop := path = [] ∨ ∃ rest, path = '/' :: rest

theorem cutOff_append_renderPart {mark : Char} {before : List Char} {part : Option (List Char)}
    (h : mark ∉ before) : cutOff mark (before ++ Url.renderPart mark part) = (before, part) := by
  cases part with
  | none => simpa [Url.renderPart] using cutOff_of_notMem h
  | some after => exact cutOff_append h after

/-- What is behind the authority starts with a character that ends it. -/
theorem span_behind_authority (hpath : IsPath path) (query fragment : Option (List Char)) :
    let behind := path ++ Url.renderPart '?' query ++ Url.renderPart '#' fragment
    (behind.takeWhile fun c => !Url.endsAuthority c) = [] ∧
      (behind.dropWhile fun c => !Url.endsAuthority c) = behind := by
  rcases hpath with rfl | ⟨rest, rfl⟩
  · cases query <;> cases fragment <;> exact ⟨rfl, rfl⟩
  · exact ⟨rfl, rfl⟩

/-- Parts that have no delimiters which end them early are told apart. -/
theorem ofRest_append (scheme : List Char) (fragment : Option (List Char))
    (hauthority : ∀ c ∈ (userinfo.map (· ++ ['@'])).getD [] ++
      (host ++ Url.renderPart ':' (port.map (Nat.toDigits 10))), Url.endsAuthority c = false)
    (hat : '@' ∉ host ++ Url.renderPart ':' (port.map (Nat.toDigits 10)))
    (hport : port = none → HoldsColons host) (hpath : IsPath path)
    (hmarks : '?' ∉ path ∧ '#' ∉ path) (hquery : '#' ∉ query.getD []) :
    ofRest scheme ((userinfo.map (· ++ ['@'])).getD [] ++
        (host ++ Url.renderPart ':' (port.map (Nat.toDigits 10))) ++
        (path ++ Url.renderPart '?' query ++ Url.renderPart '#' fragment)) =
      ⟨scheme, userinfo, host, port.map (Nat.toDigits 10), path, query, fragment⟩ := by
  have hin : ∀ c ∈ (userinfo.map (· ++ ['@'])).getD [] ++
      (host ++ Url.renderPart ':' (port.map (Nat.toDigits 10))),
      (!Url.endsAuthority c) = true := fun c hc => by rw [hauthority c hc]; rfl
  obtain ⟨htake, hdrop⟩ := span_behind_authority hpath query fragment
  have hfragment : '#' ∉ path ++ Url.renderPart '?' query := by
    cases query with
    | none => simpa [Url.renderPart] using hmarks.2
    | some query => simp [Url.renderPart, hmarks.2, show '#' ∉ query from hquery]
  simp only [ofRest, List.takeWhile_append_of_pos hin, List.dropWhile_append_of_pos hin, htake,
    hdrop, List.append_nil, cutUserinfo_append hat, cutPort_append_renderPart hport,
    cutOff_append_renderPart hfragment, cutOff_append_renderPart hmarks.1]

end UrlParts

namespace Text.Percent

variable {escaped : Char → Bool} {cs : List Char}

/-- Characters outside of the set stand for themselves. -/
theorem encode_eq_self (h : ∀ c ∈ cs, escaped c = false) : encode escaped cs = cs := by
  induction cs with
  | nil => rfl
  | cons c rest ih =>
    obtain ⟨hc, hrest⟩ := List.forall_mem_cons.mp h
    simp [encode_cons, hc, ih hrest]

/-- A character of an encoded text stands for itself or is part of an escape. -/
theorem mem_encode {c : Char} (h : c ∈ encode escaped cs) :
    (c ∈ cs ∧ escaped c = false) ∨ c = '%' ∨ ∃ d < 16, c = Hex.upper d := by
  obtain ⟨source, hsource, hc⟩ := List.mem_flatMap.mp h
  split at hc
  · obtain ⟨b, -, hc⟩ := List.mem_flatMap.mp hc
    have hb : b.toNat < 256 := b.toNat_lt
    simp only [encodeByte, List.mem_cons, List.not_mem_nil, or_false] at hc
    rcases hc with rfl | rfl | rfl
    · exact .inr (.inl rfl)
    · exact .inr (.inr ⟨_, by omega, rfl⟩)
    · exact .inr (.inr ⟨_, by omega, rfl⟩)
  · rename_i hplain
    obtain rfl := List.mem_singleton.mp hc
    exact .inl ⟨hsource, by simpa using hplain⟩

/-- An encoded text has no character that has to be encoded, if the encoding itself has
none. -/
theorem not_escaped_of_mem_encode
    (h : escaped '%' = false ∧ ∀ d < 16, escaped (Hex.upper d) = false) {c : Char}
    (hc : c ∈ encode escaped cs) : escaped c = false := by
  rcases mem_encode hc with ⟨-, hplain⟩ | rfl | ⟨d, hd, rfl⟩
  · exact hplain
  · exact h.1
  · exact h.2 d hd

/-- Encoded user information has no delimiter. -/
theorem not_endsAuthority_of_mem_encode {c : Char} (h : c ∈ encode isUserinfoEscaped cs) :
    Url.endsAuthority c = false ∧ c ≠ '@' := by
  have hc := not_escaped_of_mem_encode (by decide) h
  simp only [isUserinfoEscaped, isPathEscaped, Bool.or_eq_false_iff, decide_eq_false_iff_not,
    List.mem_cons, List.not_mem_nil, or_false, not_or] at hc
  simp [Url.endsAuthority, hc]

/-- An encoded segment of a path has no delimiter. -/
theorem notMem_encode_isPathEscaped {mark : Char} (h : mark = '?' ∨ mark = '#') :
    mark ∉ encode isPathEscaped cs := by
  intro hm
  have hplain := not_escaped_of_mem_encode (by decide) hm
  rcases h with rfl | rfl
  · exact absurd hplain (by decide)
  · exact absurd hplain (by decide)

end Text.Percent

namespace Url

/-- Resolving brings in no other segment than the empty one. -/
theorem mem_resolve {done segments : List (List Char)} {segment : List Char}
    (h : segment ∈ resolve done segments) : segment ∈ done ∨ segment ∈ segments ∨ segment = [] := by
  have hgoUp : ∀ {done : List (List Char)}, segment ∈ goUp done → segment ∈ done := by
    intro done hs
    unfold goUp at hs
    split at hs
    · exact hs
    · split at hs
      · exact hs
      · exact List.mem_cons_of_mem _ hs
  fun_induction resolve done segments with
  | case1 done => exact .inl (List.mem_reverse.mp h)
  | case2 done last _ =>
    rcases List.mem_append.mp h with hs | hs
    · exact .inl (hgoUp (List.mem_reverse.mp hs))
    · exact .inr (.inr (List.mem_singleton.mp hs))
  | case3 done last _ _ =>
    rcases List.mem_append.mp h with hs | hs
    · exact .inl (List.mem_reverse.mp hs)
    · exact .inr (.inr (List.mem_singleton.mp hs))
  | case4 done last _ _ =>
    rcases List.mem_append.mp h with hs | hs
    · exact .inl (List.mem_reverse.mp hs)
    · exact .inr (.inl hs)
  | case5 done first more _ _ ih =>
    rcases ih h with hs | hs | hs
    · exact .inl (hgoUp hs)
    · exact .inr (.inl (List.mem_cons_of_mem _ hs))
    · exact .inr (.inr hs)
  | case6 done first more _ _ _ ih =>
    exact (ih h).imp_right (Or.imp_left (List.mem_cons_of_mem _))
  | case7 done first more _ _ _ ih =>
    rcases ih h with hs | hs | hs
    · exact (List.mem_cons.mp hs).elim (fun he => .inr (.inl (he ▸ List.mem_cons_self))) .inl
    · exact .inr (.inl (List.mem_cons_of_mem _ hs))
    · exact .inr (.inr hs)

/-- A path that is read is empty or starts with a slash. -/
theorem isPath_readPath (text : List Char) : UrlParts.IsPath (readPath text) := by
  unfold readPath
  split
  · exact .inl rfl
  · exact .inl rfl
  · exact .inl rfl
  · dsimp only
    generalize resolve [] _ = segments
    cases segments with
    | nil => exact .inl rfl
    | cons segment more => exact .inr ⟨_, rfl⟩

/-- A path that is read has no delimiter. -/
theorem notMem_readPath {mark : Char} (h : mark = '?' ∨ mark = '#') (text : List Char) :
    mark ∉ readPath text := by
  intro hm
  unfold readPath at hm
  split at hm
  · cases hm
  · cases hm
  · cases hm
  · obtain ⟨segment, hsegment, hmark⟩ := List.mem_flatMap.mp hm
    have hslash : mark ≠ '/' := by
      rcases h with rfl | rfl <;> decide
    have hmark := List.mem_of_ne_of_mem hslash hmark
    rcases mem_resolve hsegment with hs | hs | rfl
    · cases hs
    · obtain ⟨source, -, rfl⟩ := List.mem_map.mp hs
      exact Text.Percent.notMem_encode_isPathEscaped h hmark
    · cases hmark

/-- User information as it stands in front of the `@`. -/
def userinfo? (u : Url) : Option (List Char) :=
  match u.password with
  | some password => some (u.username ++ ':' :: password)
  | none => if u.username.isEmpty then none else some u.username

theorem renderUserinfo_eq (u : Url) :
    renderUserinfo u.username u.password = (u.userinfo?.map (· ++ ['@'])).getD [] := by
  unfold renderUserinfo userinfo?
  cases u.password with
  | some password => simp
  | none => cases u.username <;> rfl

/-- The parts are encoded, so that none has a delimiter that ends it early. -/
structure Encoded (u : Url) : Prop where
  username : ∀ c ∈ u.username, endsAuthority c = false
  password : ∀ c ∈ u.password.getD [], endsAuthority c = false
  host : ∀ c ∈ u.host.getD [], endsAuthority c = false ∧ c ≠ '@'
  path : UrlParts.IsPath u.path
  unmarked : '?' ∉ u.path ∧ '#' ∉ u.path
  query : '#' ∉ u.query.getD []

theorem Encoded.userinfo? {u : Url} (h : u.Encoded) :
    ∀ c ∈ (u.userinfo?.map (· ++ ['@'])).getD [], endsAuthority c = false := by
  rw [← renderUserinfo_eq]
  have hpassword := h.password
  unfold renderUserinfo
  cases hp : u.password with
  | some password =>
    rw [hp] at hpassword
    refine List.forall_mem_append.mpr ⟨h.username, List.forall_mem_cons.mpr ⟨rfl, ?_⟩⟩
    exact List.forall_mem_append.mpr ⟨hpassword, List.forall_mem_singleton.mpr rfl⟩
  | none =>
    dsimp only
    split
    · exact fun _ hc => nomatch hc
    · exact List.forall_mem_append.mpr ⟨h.username, List.forall_mem_singleton.mpr rfl⟩

/-- The parts of the URL, with this scheme. -/
def parts (u : Url) (scheme : List Char) : UrlParts where
  scheme := scheme
  userinfo := u.userinfo?
  host := u.host.getD []
  port := u.port.map (Nat.toDigits 10)
  path := u.path
  query := u.query
  fragment := u.fragment

/-- What is written of a URL comes apart into its parts, whatever the text in front of it, if
that does not look like the end of a scheme. -/
theorem split?_append_write {u : Url} (h : u.Encoded)
    (hport : u.port = none → UrlParts.HoldsColons (u.host.getD [])) {lead scheme : List Char}
    (hlead : ∀ rest, Text.cutFirst? [':', '/', '/'] (lead ++ "postgresql://".toList ++ rest) =
      some (scheme, rest)) :
    UrlParts.split? (lead ++ u.write) = some (u.parts scheme) := by
  have hdigits : ∀ c ∈ renderPart ':' (u.port.map (Nat.toDigits 10)),
      endsAuthority c = false ∧ c ≠ '@' := by
    cases u.port with
    | none => exact fun _ hc => nomatch hc
    | some port =>
      refine List.forall_mem_cons.mpr ⟨by decide, fun c hc => ?_⟩
      exact (Text.isDigitOf_of_mem_toDigits (by decide) hc).elim
        (fun c => endsAuthority c = false ∧ c ≠ '@') (by decide)
  have hserver := List.forall_mem_append.mpr ⟨h.host, hdigits⟩
  have hparts := UrlParts.ofRest_append scheme u.fragment
    (List.forall_mem_append.mpr ⟨h.userinfo?, fun c hc => (hserver c hc).1⟩)
    (fun hat => (hserver '@' hat).2 rfl) hport h.path h.unmarked h.query
  have hwrite : lead ++ u.write = lead ++ "postgresql://".toList ++
      ((u.userinfo?.map (· ++ ['@'])).getD [] ++
        (u.host.getD [] ++ renderPart ':' (u.port.map (Nat.toDigits 10))) ++
        (u.path ++ renderPart '?' u.query ++ renderPart '#' u.fragment)) := by
    unfold write
    generalize "postgresql://".toList = opening
    simp only [renderUserinfo_eq, List.append_assoc]
  rw [UrlParts.split?, hwrite, hlead]
  exact congrArg some hparts

/-- An encoded URL is split at the marks that it was written with. -/
theorem split?_render {u : Url} (h : u.Encoded)
    (hport : u.port = none → UrlParts.HoldsColons (u.host.getD [])) :
    UrlParts.split? u.render.toList = some (u.parts "postgresql".toList) := by
  rw [render, String.toList_ofList, ← List.nil_append u.write]
  exact split?_append_write h hport fun _ => rfl

/-- The marker of JDBC drivers in front of a URL is a part of the scheme. -/
theorem split?_jdbc_render {u : Url} (h : u.Encoded)
    (hport : u.port = none → UrlParts.HoldsColons (u.host.getD [])) :
    UrlParts.split? ("jdbc:" ++ u.render).toList = some (u.parts "jdbc:postgresql".toList) := by
  rw [render, String.toList_append, String.toList_ofList (l := Url.write _)]
  exact split?_append_write h hport fun _ => rfl

end Url

end SqlOperator
