import SqlOperator.Proofs.Net.AddressLiterals
import SqlOperator.Proofs.Net.UrlParts

/-!
# URLs of servers

A server that is given by an address literal has a URL: its host is the address, in
brackets if it is one of IPv6, its port is the given one, and it has no other parts.
-/

namespace SqlOperator

open Text

/-- The address as the host of a URL. -/
def IpAddress.urlHost : IpAddress → List Char
  | .v4 x => x.render
  | .v6 x => '[' :: (x.render ++ [']'])

namespace Url

/-- A character that ends nothing, neither the authority nor a part of it. -/
def IsInert (c : Char) : Prop := isDropped c = false ∧ endsAuthority c = false ∧ c ≠ '@'

instance : DecidablePred IsInert := fun c =>
  inferInstanceAs (Decidable (isDropped c = false ∧ endsAuthority c = false ∧ c ≠ '@'))

theorem isInert_of_isAddressChar {c : Char} (h : IsAddressChar c) : IsInert c :=
  h.elim IsInert (by decide) (by decide) (by decide)

variable {host rest : List Char} {port : Nat}

theorem isInert_of_mem_toDigits {c : Char} (h : c ∈ Nat.toDigits 10 port) : IsInert c :=
  isInert_of_isAddressChar
    ((isDigitOf_of_mem_toDigits (by decide) h).elim IsAddressChar isAddressChar_digitChar)

/-- A host without colon and brackets ends at the first colon. -/
theorem spanHost_plain (h : ∀ c ∈ host, c ≠ ':' ∧ c ≠ '[' ∧ endsAuthority c = false)
    (rest : List Char) : spanHost false (host ++ ':' :: rest) = (host, ':' :: rest) := by
  induction host with
  | nil => simp [spanHost]
  | cons c more ih =>
    obtain ⟨⟨hcolon, hbracket, hends⟩, hmore⟩ := List.forall_mem_cons.mp h
    simp [spanHost, hcolon, hbracket, hends, ih hmore]

/-- A host in brackets ends behind them. -/
theorem spanHost_brackets (h : ∀ c ∈ host, c ≠ ']' ∧ endsAuthority c = false)
    (rest : List Char) :
    spanHost false ('[' :: (host ++ ']' :: ':' :: rest)) =
      ('[' :: (host ++ [']']), ':' :: rest) := by
  have hinside : spanHost true (host ++ ']' :: ':' :: rest) = (host ++ [']'], ':' :: rest) := by
    induction host with
    | nil => simp [spanHost, endsAuthority]
    | cons c more ih =>
      obtain ⟨⟨hbracket, hends⟩, hmore⟩ := List.forall_mem_cons.mp h
      have hstill : (c = '[' || (true && c != ']')) = true := by simp [hbracket]
      rw [List.cons_append, spanHost, hstill, ih hmore]
      simp [hends]
  simp [spanHost, endsAuthority, hinside]

theorem readPort_toDigits (h : port ≤ 65535) :
    readPort (Nat.toDigits 10 port) = .ok (some port, []) := by
  have hdigits : ∀ c ∈ Nat.toDigits 10 port, c.isDigit = true :=
    fun _ => Nat.isDigit_of_mem_toDigits (by decide) (by decide)
  have htake : (Nat.toDigits 10 port).takeWhile Char.isDigit = Nat.toDigits 10 port :=
    List.takeWhile_eq_self_iff.mpr hdigits
  have hdrop : (Nat.toDigits 10 port).dropWhile Char.isDigit = [] :=
    List.dropWhile_eq_nil_iff.mpr hdigits
  simp [readPort, htake, hdrop, decimal?_toDigits, h]

/-- A host and a port are read as such if no character of the text ends them early. -/
theorem ofAuthority_of_readHost {written : List Char} (hport : port ≤ 65535)
    (hinert : ∀ c ∈ host, IsInert c)
    (hspan : spanHost false (host ++ ':' :: Nat.toDigits 10 port) =
      (host, ':' :: Nat.toDigits 10 port))
    (hread : readHost host = .ok written) (hne : written.isEmpty = false) :
    ofAuthority (host ++ ':' :: Nat.toDigits 10 port) =
      .ok { host := some written, port := some port } := by
  have hall : ∀ c ∈ host ++ ':' :: Nat.toDigits 10 port, IsInert c := by
    refine List.forall_mem_append.mpr ⟨hinert, List.forall_mem_cons.mpr ⟨?_, ?_⟩⟩
    · exact isInert_of_isAddressChar (.inr (.inl rfl))
    · exact fun _ => isInert_of_mem_toDigits
  have hclean : (host ++ ':' :: Nat.toDigits 10 port).filter (fun c => !isDropped c) =
      host ++ ':' :: Nat.toDigits 10 port :=
    List.filter_eq_self.mpr fun c hc => by simp [(hall c hc).1]
  have hauthority : (host ++ ':' :: Nat.toDigits 10 port).takeWhile (fun c => !endsAuthority c) =
      host ++ ':' :: Nat.toDigits 10 port :=
    List.takeWhile_eq_self_iff.mpr fun c hc => by simp [(hall c hc).2.1]
  have huserinfo : readUserinfo (host ++ ':' :: Nat.toDigits 10 port) =
      .ok ([], none, host ++ ':' :: Nat.toDigits 10 port) := by
    simp only [readUserinfo, hauthority,
      cutLast?_of_notMem fun hat => (hall '@' hat).2.2 rfl]
  simp [ofAuthority, hclean, huserinfo, hspan, hread, hne, readPort_toDigits hport, bind,
    Except.bind, pure, Except.pure, readQueryAndFragment, cutFirst?, renderUserinfo]

theorem readHost_v4 (x : Ipv4Address) : readHost x.render = .ok x.render := by
  have hchars := x.forall_mem_render
    (fun c => isForbiddenInHost c = false ∧ Percent.isControl c = false) (by decide) (by decide)
  have hhead : x.render.head? ≠ some '[' := fun h =>
    absurd (hchars '[' (List.mem_of_mem_head? h)).1 (by decide)
  have hany : x.render.any isForbiddenInHost = false :=
    List.any_eq_false.mpr fun c hc => by simp [(hchars c hc).1]
  rw [readHost, if_neg hhead, hany, if_neg Bool.false_ne_true,
    Percent.encode_eq_self fun c hc => (hchars c hc).2]

/-- A literal in brackets is written anew. -/
theorem readHost_v6 {cs : List Char} {x : Ipv6Address} (h : Ipv6Address.parse? cs = some x) :
    readHost ('[' :: (cs ++ [']'])) = .ok ('[' :: (x.render ++ [']'])) := by
  have hlast : ('[' :: (cs ++ [']'])).getLast? = some ']' := by
    rw [← List.cons_append, List.getLast?_concat]
  simp [readHost, hlast, h]

/-- The URL of a server with an address literal has the address and the port, and no other
part. -/
theorem ofServer_literal {host : String} {a : IpAddress}
    (h : IpAddress.parse? host.toList = some a) (port : UInt16) :
    ofServer host port = .ok { host := some a.urlHost, port := some port.toNat } := by
  have hport : port.toNat ≤ 65535 := Nat.le_of_lt_succ port.toNat_lt
  unfold ofServer
  rw [h]
  cases a with
  | v4 x =>
    have hchars : ∀ c ∈ x.render, IsInert c := fun c hc =>
      isInert_of_isAddressChar (Ipv4Address.isAddressChar_of_mem_render hc)
    have hplain := x.forall_mem_render
      (fun c => c ≠ ':' ∧ c ≠ '[' ∧ endsAuthority c = false) (by decide) (by decide)
    have hne : x.render.isEmpty = false := by
      cases hr : x.render with
      | nil =>
        have hparse := Ipv4Address.parse?_render x
        rw [hr] at hparse
        cases hparse
      | cons => rfl
    simp only [SocketAddress.render, String.toList_ofList]
    exact ofAuthority_of_readHost hport hchars (spanHost_plain hplain _) (readHost_v4 x) hne
  | v6 x =>
    have hchars : ∀ c ∈ x.renderMapped, IsInert c ∧ c ≠ ']' := by
      intro c hc
      exact (Ipv6Address.isAddressChar_of_mem_renderMapped hc).elim
        (fun c => IsInert c ∧ c ≠ ']') (by decide) (by decide) (by decide)
    have hinert : ∀ c ∈ '[' :: (x.renderMapped ++ [']']), IsInert c :=
      List.forall_mem_cons.mpr ⟨by decide, List.forall_mem_append.mpr
        ⟨fun c hc => (hchars c hc).1, List.forall_mem_singleton.mpr (by decide)⟩⟩
    have hspan := spanHost_brackets (fun c hc => ⟨(hchars c hc).2, (hchars c hc).1.2.1⟩)
      (Nat.toDigits 10 port.toNat)
    have hread := ofAuthority_of_readHost hport hinert (by simpa using hspan)
      (readHost_v6 (Ipv6Address.parse?_renderMapped x)) rfl
    simpa [SocketAddress.render, IpAddress.urlHost] using hread

end Url

end SqlOperator
