import SqlOperator.Proofs.Net.ServerUrls
import SqlOperator.Proofs.Text.FormDecoding

/-!
# URLs of servers with any host

The host of a server may be any text. What looks like user information, a query or a fragment
in it becomes that part of the URL. But every part is in written form, without a delimiter that
would end it early, and a colon is in the host only between brackets. So the URL comes apart
again into the parts that were read, and still does after user information, a path and
parameters have been set.
-/

namespace SqlOperator.Url

open Text

/-- The URL comes apart into its parts when it has been written. -/
structure Separable (u : Url) : Prop where
  encoded : u.Encoded
  colons : UrlParts.HoldsColons (u.host.getD [])

section Reading

variable {cs host rest username : List Char} {password query fragment : Option (List Char)}
  {port : Option Nat}

/-- User information has no character that ends the authority, and what is left is an end of the
text. -/
theorem readUserinfo_eq_ok (h : readUserinfo cs = .ok (username, password, rest)) :
    (∀ c ∈ username, endsAuthority c = false) ∧
      (∀ c ∈ password.getD [], endsAuthority c = false) ∧ rest <:+ cs := by
  have hencoded : ∀ {cs : List Char}, ∀ c ∈ Percent.encode Percent.isUserinfoEscaped cs,
      endsAuthority c = false := fun c hc => (Percent.not_endsAuthority_of_mem_encode hc).1
  unfold readUserinfo at h
  dsimp only at h
  cases hcut : cutLast? '@' (cs.takeWhile fun c => !endsAuthority c) with
  | none =>
    rw [hcut] at h
    obtain ⟨rfl, rfl, rfl⟩ := by simpa using h
    exact ⟨nofun, nofun, List.suffix_refl _⟩
  | some cut =>
    obtain ⟨userinfo, server⟩ := cut
    have hsuffix : server ++ cs.dropWhile (fun c => !endsAuthority c) <:+ cs := by
      refine ⟨userinfo ++ ['@'], ?_⟩
      rw [← List.append_assoc, List.append_assoc userinfo, List.singleton_append,
        ← eq_append_of_cutLast? hcut, List.takeWhile_append_dropWhile]
    rw [hcut] at h
    dsimp only at h
    split at h
    · split at h
      · cases h
      · obtain ⟨rfl, rfl, rfl⟩ := by simpa using h
        exact ⟨nofun, nofun, hsuffix⟩
    · split at h
      · obtain ⟨rfl, rfl, rfl⟩ := by simpa using h
        refine ⟨hencoded, fun c hc => ?_, hsuffix⟩
        split at hc
        · cases hc
        · exact hencoded c hc
      · obtain ⟨rfl, rfl, rfl⟩ := by simpa using h
        exact ⟨hencoded, nofun, hsuffix⟩

/-- Nothing is lost where the host is cut off. -/
theorem spanHost_append (inBrackets : Bool) (cs : List Char) :
    (spanHost inBrackets cs).1 ++ (spanHost inBrackets cs).2 = cs := by
  fun_induction spanHost inBrackets cs with
  | case1 => rfl
  | case2 => rfl
  | case3 inBrackets c rest _ host after heq ih =>
    rw [heq] at ih
    exact congrArg (c :: ·) ih

theorem isForbiddenInHost_upper : ∀ d < 16, isForbiddenInHost (Hex.upper d) = false := by decide

/-- The written form of a host has no delimiter, and colons in brackets only. -/
theorem readHost_eq_ok (h : readHost cs = .ok host) :
    (∀ c ∈ host, endsAuthority c = false ∧ c ≠ '@') ∧ UrlParts.HoldsColons host := by
  unfold readHost at h
  split at h
  · split at h
    · split at h
      · rename_i x _
        obtain rfl := Except.ok.inj h
        refine ⟨List.forall_mem_cons.mpr ⟨by decide, List.forall_mem_append.mpr
          ⟨fun c hc => ?_, List.forall_mem_singleton.mpr (by decide)⟩⟩, fun _ => ?_⟩
        · exact (isInert_of_isAddressChar (Ipv6Address.isAddressChar_of_mem_render hc)).2
        · rw [← List.cons_append, List.getLast?_concat]
      · cases h
    · cases h
  · split at h
    · cases h
    · rename_i hallowed
      obtain rfl := Except.ok.inj h
      have hplain : ∀ c ∈ Percent.encode Percent.isControl cs, isForbiddenInHost c = false := by
        intro c hc
        rcases Percent.mem_encode hc with ⟨hsource, -⟩ | rfl | ⟨d, hd, rfl⟩
        · simpa using List.any_eq_false.mp (Bool.eq_false_iff.mpr hallowed) c hsource
        · decide
        · exact isForbiddenInHost_upper d hd
      have hmark : ∀ c, isForbiddenInHost c = false →
          endsAuthority c = false ∧ c ≠ '@' ∧ c ≠ ':' := by
        intro c hc
        simp only [isForbiddenInHost, decide_eq_false_iff_not, List.mem_cons, List.not_mem_nil,
          or_false, not_or] at hc
        simp [endsAuthority, hc]
      exact ⟨fun c hc => ⟨(hmark c (hplain c hc)).1, (hmark c (hplain c hc)).2.1⟩,
        fun hcolon => absurd rfl (hmark _ (hplain _ hcolon)).2.2⟩

theorem readPort_eq_ok (h : readPort cs = .ok (port, rest)) : rest <:+ cs := by
  unfold readPort at h
  dsimp only at h
  split at h
  · cases h
  · split at h
    · obtain ⟨-, rfl⟩ := by simpa using h
      exact List.dropWhile_suffix _
    · cases h

theorem readQueryAndFragment_eq (h : readQueryAndFragment cs = (query, fragment)) :
    '#' ∉ query.getD [] ∧ ('?' ∉ cs → query = none) := by
  have hquery : ∃ before, before <+: cs ∧ query =
      ((cutFirst? ['?'] before).map (·.2)).map (Percent.encode Percent.isQueryEscaped) := by
    obtain ⟨rfl, -⟩ := Prod.mk.inj h
    cases hcut : cutFirst? ['#'] cs with
    | none => exact ⟨cs, List.prefix_refl _, rfl⟩
    | some cut =>
      refine ⟨cut.1, ⟨['#'] ++ cut.2, ?_⟩, rfl⟩
      rw [eq_append_of_cutFirst? hcut, List.append_assoc]
  obtain ⟨before, hbefore, rfl⟩ := hquery
  constructor
  · cases cutFirst? ['?'] before with
    | none => exact List.not_mem_nil
    | some cut =>
      exact fun hhash => absurd (Percent.not_escaped_of_mem_encode (by decide) hhash) (by decide)
  · intro hmark
    rw [cutFirst?_of_notMem fun hm => hmark (hbefore.subset hm)]
    rfl

end Reading

variable {u v : Url} {text : List Char}

/-- A text that is read has been taken apart into user information, a host, a port and what is
behind them. -/
theorem ofAuthority_eq_ok (h : ofAuthority text = .ok u) :
    ∃ username password rest host port behind,
      readUserinfo (text.filter fun c => !isDropped c) = .ok (username, password, rest) ∧
      readHost (spanHost false rest).1 = .ok host ∧ behind <:+ (spanHost false rest).2 ∧
      u = {
        username, password, port
        query := (readQueryAndFragment behind).1
        fragment := (readQueryAndFragment behind).2
        host := if host.isEmpty then none else some host } := by
  unfold ofAuthority at h
  cases huserinfo : readUserinfo (text.filter fun c => !isDropped c) with
  | error e =>
    rw [huserinfo] at h
    cases h
  | ok read =>
    obtain ⟨username, password, rest⟩ := read
    rw [huserinfo] at h
    simp only [bind, Except.bind] at h
    cases hhost : readHost (spanHost false rest).1 with
    | error e =>
      rw [hhost] at h
      cases h
    | ok host =>
      rw [hhost] at h
      dsimp only at h
      split at h
      · cases h
      split at h
      · rename_i after hafter
        cases hport : readPort after with
        | error e =>
          rw [hport] at h
          cases h
        | ok read =>
          have hbehind := readPort_eq_ok hport
          rw [hport] at h
          dsimp only at h
          split at h
          · cases h
          · exact ⟨_, _, _, _, _, read.2, rfl, hhost,
              hafter ▸ hbehind.trans (List.suffix_cons _ _), (Except.ok.inj h).symm⟩
      · simp only [pure, Except.pure] at h
        split at h
        · cases h
        · exact ⟨_, _, _, _, _, _, rfl, hhost, List.suffix_refl _, (Except.ok.inj h).symm⟩

/-- A URL that was read can be taken apart again, and a query takes a question mark. -/
theorem separable_of_ofAuthority (h : ofAuthority text = .ok u) :
    u.Separable ∧ ('?' ∉ text → u.query = none) := by
  obtain ⟨username, password, rest, host, port, behind, huserinfo, hhost, hbehind, rfl⟩ :=
    ofAuthority_eq_ok h
  obtain ⟨husername, hpassword, hrest⟩ := readUserinfo_eq_ok huserinfo
  obtain ⟨hplain, hcolons⟩ := readHost_eq_ok hhost
  obtain ⟨hquery, hnone⟩ := readQueryAndFragment_eq (Eq.refl (readQueryAndFragment behind))
  have hmem : ∀ c ∈ behind, c ∈ text := by
    intro c hc
    have hin : c ∈ rest := spanHost_append false rest ▸ List.mem_append_right _ (hbehind.mem hc)
    exact (List.mem_filter.mp (hrest.mem hin)).1
  have hwritten : (if host.isEmpty then none else some host).getD [] = host := by
    cases host <;> rfl
  refine ⟨⟨{
    username := husername
    password := hpassword
    host := fun c hc => hplain c (hwritten ▸ hc)
    path := .inl rfl
    unmarked := ⟨List.not_mem_nil, List.not_mem_nil⟩
    query := hquery }, ?_⟩, fun hmark => hnone fun hm => hmark (hmem _ hm)⟩
  rw [hwritten]
  exact hcolons

/-- The URL of a server comes apart into its parts, and has no query if there is no mark for one
in the host. -/
theorem separable_of_ofServer {host : String} {port : UInt16} (h : ofServer host port = .ok u) :
    u.Separable ∧ ('?' ∉ host.toList → u.query = none) := by
  cases hliteral : IpAddress.parse? host.toList with
  | some a =>
    obtain rfl := Except.ok.inj ((ofServer_literal hliteral port).symm.trans h)
    unfold ofServer at h
    rw [hliteral] at h
    cases a with
    | v4 x => exact ⟨(separable_of_ofAuthority h).1, fun _ => rfl⟩
    | v6 x => exact ⟨(separable_of_ofAuthority h).1, fun _ => rfl⟩
  | none =>
    unfold ofServer at h
    rw [hliteral] at h
    obtain ⟨hseparable, hnone⟩ := separable_of_ofAuthority h
    refine ⟨hseparable, fun hmark => hnone fun hm => ?_⟩
    rcases List.mem_append.mp hm with hhost | hport
    · exact hmark hhost
    · have hdigits : '?' ∈ Nat.toDigits 10 port.toNat := List.mem_of_ne_of_mem (by decide) hport
      exact absurd (isInert_of_mem_toDigits hdigits) (by decide)

namespace Separable

variable (h : u.Separable)

include h

theorem setUsername {username : String} (hset : u.setUsername username = .ok v) :
    v.Separable ∧ ∃ written, v = { u with username := written } := by
  unfold Url.setUsername at hset
  split at hset
  · cases hset
  · split at hset
    · obtain rfl := Except.ok.inj hset
      exact ⟨h, _, rfl⟩
    · obtain rfl := Except.ok.inj hset
      have hwritten : ∀ c ∈ Percent.encode Percent.isUserinfoEscaped username.toList,
          endsAuthority c = false := fun c hc => (Percent.not_endsAuthority_of_mem_encode hc).1
      exact ⟨⟨{ h.encoded with username := hwritten }, h.colons⟩, _, rfl⟩

theorem setPassword {password : String} (hset : u.setPassword password = .ok v) :
    v.Separable ∧ ∃ written, v = { u with password := written } := by
  unfold Url.setPassword at hset
  split at hset
  · cases hset
  · obtain rfl := Except.ok.inj hset
    refine ⟨⟨{ h.encoded with password := fun c hc => ?_ }, h.colons⟩, _, rfl⟩
    split at hc
    · cases hc
    · exact (Percent.not_endsAuthority_of_mem_encode hc).1

theorem setPath (text : String) : (u.setPath text).Separable where
  encoded := {
    h.encoded with
    path := isPath_readPath _
    unmarked := ⟨notMem_readPath (.inl rfl) _, notMem_readPath (.inr rfl) _⟩ }
  colons := h.colons

theorem appendParameters (parameters : List (String × String)) :
    (u.appendParameters parameters).Separable where
  encoded := {
    h.encoded with
    query := by
      have hadded := Form.hash_notMem_encode parameters
      have hquery := h.encoded.query
      unfold Url.appendParameters
      dsimp only
      split
      · exact hadded
      · exact hadded
      · rename_i query hquery'
        rw [hquery'] at hquery
        split
        · exact hquery
        · simpa using ⟨hquery, hadded⟩ }
  colons := h.colons

end Separable

end SqlOperator.Url
