import SqlOperator.Net.SocketAddress

/-!
# Addresses of web resources

What a text has to be so that it names a server or a resource of one: an authority,
a path and a query. A fragment is not sent and is dropped.
-/

namespace SqlOperator

/-- Why a text is not an address. -/
inductive UriFault where
  | tooLong
  | empty
  | invalidCharacter
  | invalidAuthority
  /-- There is no authority in front of the path. -/
  | noAuthority
  deriving DecidableEq, Inhabited, Repr

def UriFault.message : UriFault → String
  | .tooLong => "uri too long"
  | .empty => "empty string"
  | .invalidCharacter => "invalid uri character"
  | .invalidAuthority => "invalid authority"
  | .noAuthority => "invalid format"

namespace Uri

/-- The greatest number of bytes of an address. -/
def longest : Nat := 65534

/-- A character that may stand in a path. -/
def isPathCharacter (c : Char) : Bool :=
  let n := c.toNat
  n = 0x21 || (0x24 ≤ n && n ≤ 0x3b) || n = 0x3d || (0x40 ≤ n && n ≤ 0x5f) ||
    (0x61 ≤ n && n ≤ 0x7e) || 0x80 ≤ n || c = '\x22'

/-- A character that may stand in a query. -/
def isQueryCharacter (c : Char) : Bool :=
  let n := c.toNat
  n = 0x21 || (0x24 ≤ n && n ≤ 0x3b) || n = 0x3d || (0x3f ≤ n && n ≤ 0x7e) || 0x80 ≤ n

/-- A path with a query, without the fragment. -/
def target (cs : List Char) : Except UriFault (List Char) :=
  let shown := cs.takeWhile (· != '#')
  let path := shown.takeWhile (· != '?')
  let query := shown.drop path.length
  if path.all isPathCharacter && query.all isQueryCharacter then .ok shown
  else .error .invalidCharacter

/-! ### Authorities -/

/-- A character that may stand in an authority. -/
def isAuthorityCharacter (c : Char) : Bool :=
  c.isAlphanum || "!$&'()*+,-.:;=@[]_~".toList.contains c

/-- What has been met of an authority since its user information. -/
structure AuthorityProgress where
  colons : Nat := 0
  opened : Bool := false
  closed : Bool := false
  percent : Bool := false
  /-- The last character ends the user information. -/
  afterUser : Bool := false
  deriving DecidableEq, Inhabited

/-- The most colons in a row of groups, which are those of an IPv6 address. -/
def mostColons : Nat := 8

namespace AuthorityProgress

/-- Go on over a character. Colons and percent signs in front of a closing bracket or of
an `@` no longer count. -/
def read (p : AuthorityProgress) (c : Char) : Except UriFault AuthorityProgress :=
  let p := { p with afterUser := false }
  match c with
  | ':' =>
    if mostColons ≤ p.colons then .error .invalidAuthority
    else .ok { p with colons := p.colons + 1 }
  | '[' =>
    if p.percent || p.opened then .error .invalidAuthority else .ok { p with opened := true }
  | ']' =>
    if !p.opened || p.closed then .error .invalidAuthority
    else .ok { p with closed := true, colons := 0, percent := false }
  | '@' => .ok { p with colons := 0, percent := false, afterUser := true }
  | '%' => .ok { p with percent := true }
  | _ => if isAuthorityCharacter c then .ok p else .error .invalidCharacter

/-- Whether an authority may end here: its bracket is closed, it has at most one colon
in front of a port, and a host without percent signs follows the user information. -/
def isEnd (p : AuthorityProgress) : Bool :=
  p.opened == p.closed && p.colons ≤ 1 && !p.afterUser && !p.percent

end AuthorityProgress

/-- Check the text of an authority. -/
def checkAuthority (cs : List Char) : Except UriFault Unit := do
  let p ← cs.foldlM AuthorityProgress.read {}
  if p.isEnd then .ok () else .error .invalidAuthority

/-- The scheme of secure connections. -/
def secureScheme : String := "https://"

/-- Check what follows the secure scheme. -/
def checkSecure (text : String) : Except UriFault Unit := do
  if longest < secureScheme.utf8ByteSize + text.utf8ByteSize then throw .tooLong
  if text.isEmpty then throw .empty
  let authority := text.toList.takeWhile fun c => c != '/' && c != '?' && c != '#'
  checkAuthority authority
  if authority.isEmpty then throw .noAuthority
  let _ ← target (text.toList.drop authority.length)

/-- The port of secure connections, which is not written. -/
def securePort : UInt16 := 443

/-- The authority of a server at a port. An IPv6 address stands in brackets. -/
def authority (host : String) (port : UInt16) : String :=
  let mark := if port = securePort then "" else ":" ++ toString port.toNat
  match IpAddress.parse? host.toList with
  | some (.v6 address) => "[" ++ String.ofList address.renderMapped ++ "]" ++ mark
  | some (.v4 address) => String.ofList address.render ++ mark
  | none => host ++ mark

end Uri

end SqlOperator
