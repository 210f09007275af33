import SqlOperator.Net.SocketAddress
import SqlOperator.Text.Form

/-!
# Connection URLs

A URL of the scheme `postgresql` is kept as its parts, each in written form. It
starts from the text of a host and port, which is read by the rules for schemes
without special treatment: what looks like user information, a path, a query or
a fragment inside of that text becomes that part of the URL. User information,
path and parameters are then set one by one, each with its own set of escaped
characters.

## Implementation notes

Setting a path reads the text as a path: dot segments are resolved, and a text
that starts with `?` or `#` is an empty path. A segment that looks like a drive
letter is not taken away by a following `..`.
-/

namespace SqlOperator

/-- Why a text is not a URL. -/
inductive UrlError where
  | emptyHost
  | idna
  | invalidPort
  | invalidIpv4
  | invalidIpv6
  | invalidDomainCharacter
  | relativeWithoutBase
  | relativeWithCannotBeABase
  | setHostOnCannotBeABase
  | overflow
  deriving DecidableEq, Inhabited

def UrlError.message : UrlError → String
  | .emptyHost => "empty host"
  | .idna => "invalid international domain name"
  | .invalidPort => "invalid port number"
  | .invalidIpv4 => "invalid IPv4 address"
  | .invalidIpv6 => "invalid IPv6 address"
  | .invalidDomainCharacter => "invalid domain character"
  | .relativeWithoutBase => "relative URL without a base"
  | .relativeWithCannotBeABase => "relative URL with a cannot-be-a-base base"
  | .setHostOnCannotBeABase => "a cannot-be-a-base URL doesn’t have a host to set"
  | .overflow => "URLs more than 4 GB are not supported"

/-- A URL of the scheme `postgresql` in parts. -/
structure Url where
  username : List Char := []
  /-- The password, never empty. -/
  password : Option (List Char) := none
  /-- The host, never empty. -/
  host : Option (List Char) := none
  port : Option Nat := none
  path : List Char := []
  query : Option (List Char) := none
  fragment : Option (List Char) := none
  deriving DecidableEq, Inhabited

namespace Url

/-- User information with an `@` behind it, unless there is none. -/
def renderUserinfo (username : List Char) (password : Option (List Char)) : List Char :=
  match password with
  | some password => username ++ ':' :: (password ++ ['@'])
  | none => if username.isEmpty then [] else username ++ ['@']

/-- A part after the character that introduces it, unless it is absent. -/
def renderPart (mark : Char) (part : Option (List Char)) : List Char :=
  match part with
  | some text => mark :: text
  | none => []

/-- The parts in order, each with the mark that introduces it. -/
def write (u : Url) : List Char :=
  "postgresql://".toList ++ renderUserinfo u.username u.password ++ u.host.getD [] ++
    renderPart ':' (u.port.map (Nat.toDigits 10)) ++ u.path ++ renderPart '?' u.query ++
    renderPart '#' u.fragment

def render (u : Url) : String := String.ofList u.write

/-- A tab or line break, which is dropped from a text before it is read. -/
def isDropped (c : Char) : Bool := c = '\t' || c = '\n' || c = '\r'

/-- The end of the authority, or of the path after it. -/
def endsAuthority (c : Char) : Bool := c = '/' || c = '?' || c = '#'

/-- Read user information, which ends at the last `@` of the authority. -/
def readUserinfo (cs : List Char) :
    Except UrlError (List Char × Option (List Char) × List Char) :=
  let authority := cs.takeWhile fun c => !endsAuthority c
  let after := cs.dropWhile fun c => !endsAuthority c
  match Text.cutLast? '@' authority with
  | none => .ok ([], none, cs)
  | some (userinfo, host) =>
    if userinfo.isEmpty then
      if host.isEmpty && !after.isEmpty then .error .emptyHost else .ok ([], none, host ++ after)
    else
      let encode := Text.Percent.encode Text.Percent.isUserinfoEscaped
      match Text.cutFirst? [':'] userinfo with
      | some (username, password) =>
        .ok (encode username, if password.isEmpty then none else some (encode password),
          host ++ after)
      | none => .ok (encode userinfo, none, host ++ after)

/-- Cut off a host, which ends at a colon outside of brackets or with the authority. -/
def spanHost : Bool → List Char → List Char × List Char
  | _, [] => ([], [])
  | inBrackets, c :: rest =>
    if (c = ':' && !inBrackets) || endsAuthority c then ([], c :: rest)
    else
      let (host, after) := spanHost (c = '[' || (inBrackets && c != ']')) rest
      (c :: host, after)

/-- A character that a host cannot have. -/
def isForbiddenInHost (c : Char) : Bool :=
  c ∈ ['\x00', '\t', '\n', '\r', ' ', '#', '/', ':', '<', '>', '?', '@', '[', '\\', ']', '^', '|']

/-- The written form of a host. -/
def readHost (cs : List Char) : Except UrlError (List Char) :=
  if cs.head? = some '[' then
    if cs.getLast? = some ']' then
      match Ipv6Address.parse? (cs.drop 1).dropLast with
      | some address => .ok ('[' :: (address.render ++ [']']))
      | none => .error .invalidIpv6
    else .error .invalidIpv6
  else if cs.any isForbiddenInHost then .error .invalidDomainCharacter
  else .ok (Text.Percent.encode Text.Percent.isControl cs)

/-- Read a port, which may be empty, up to the end of the authority. -/
def readPort (cs : List Char) : Except UrlError (Option Nat × List Char) :=
  let digits := cs.takeWhile Char.isDigit
  let rest := cs.dropWhile Char.isDigit
  if (Text.decimal? digits).any (65535 < ·) then .error .invalidPort
  else if rest.head?.all fun c => endsAuthority c || c = '\\' then
    .ok (Text.decimal? digits, rest)
  else .error .invalidPort

/-- Split off query and fragment. -/
def readQueryAndFragment (cs : List Char) : Option (List Char) × Option (List Char) :=
  let (before, fragment) := match Text.cutFirst? ['#'] cs with
    | some (before, fragment) => (before, some fragment)
    | none => (cs, none)
  let query := (Text.cutFirst? ['?'] before).map (·.2)
  (query.map (Text.Percent.encode Text.Percent.isQueryEscaped),
    fragment.map (Text.Percent.encode Text.Percent.isFragmentEscaped))

/-- Read what follows `postgresql://`, all but the path, which is left empty. -/
def ofAuthority (text : List Char) : Except UrlError Url := do
  let (username, password, rest) ← readUserinfo (text.filter fun c => !isDropped c)
  let (hostText, rest) := spanHost false rest
  let host ← readHost hostText
  if host.isEmpty && rest.head? = some ':' then throw .emptyHost
  let (port, rest) ← match rest with
    | ':' :: rest => readPort rest
    | _ => pure (none, rest)
  if host.isEmpty && !(renderUserinfo username password).isEmpty then throw .emptyHost
  let (query, fragment) := readQueryAndFragment rest
  return {
    username, password, port, query, fragment
    host := if host.isEmpty then none else some host }

/-- The URL of a server: an address literal is put into brackets where needed,
any other host is taken as it is. -/
def ofServer (host : String) (port : UInt16) : Except UrlError Url :=
  match IpAddress.parse? host.toList with
  | some (.v4 address) => ofAuthority (SocketAddress.render (.v4 address port)).toList
  | some (.v6 address) => ofAuthority (SocketAddress.render (.v6 address 0 port)).toList
  | none => ofAuthority (host.toList ++ ':' :: Nat.toDigits 10 port.toNat)

/-- Set the user name, which takes a host. A name that is there already in
written form stays as it is. -/
def setUsername (u : Url) (username : String) : Except UrlError Url :=
  if u.host.isNone then .error .emptyHost
  else if u.username = username.toList then .ok u
  else
    .ok { u with
      username := Text.Percent.encode Text.Percent.isUserinfoEscaped username.toList }

/-- Set the password, which takes a host; an empty one is none. -/
def setPassword (u : Url) (password : String) : Except UrlError Url :=
  if u.host.isNone then .error .emptyHost
  else
    .ok { u with
      password :=
        if password.isEmpty then none
        else some (Text.Percent.encode Text.Percent.isUserinfoEscaped password.toList) }

/-- A dot as a segment writes it. -/
def isDot (cs : List Char) : Bool :=
  cs = ['.'] || cs.map Char.toLower = ['%', '2', 'e']

/-- A segment that stays where it is. -/
def isSingleDot (cs : List Char) : Bool := isDot cs

/-- A segment that goes up. -/
def isDoubleDot (cs : List Char) : Bool :=
  match cs with
  | '.' :: rest => isDot rest
  | a :: b :: c :: rest => isDot [a, b, c] && isDot rest
  | _ => false

/-- A segment that looks like a drive letter, alone or in front of a backslash. -/
def isDriveLetter (cs : List Char) : Bool :=
  match cs with
  | letter :: mark :: rest =>
    letter.isAlpha && (mark = ':' || mark = '|') && rest.head?.all (· = '\\')
  | _ => false

/-- Go up from a path that is given by its segments backwards. -/
def goUp : List (List Char) → List (List Char)
  | [] => []
  | segment :: rest => if isDriveLetter segment then segment :: rest else rest

/-- Resolve dot segments; `done` are the segments so far, backwards. A dot
segment at the end leaves an empty segment behind. -/
def resolve (done : List (List Char)) : List (List Char) → List (List Char)
  | [] => done.reverse
  | [last] =>
    if isDoubleDot last then (goUp done).reverse ++ [[]]
    else if isSingleDot last then done.reverse ++ [[]]
    else done.reverse ++ [last]
  | segment :: more =>
    if isDoubleDot segment then resolve (goUp done) more
    else if isSingleDot segment then resolve done more
    else resolve (segment :: done) more

/-- The written form of a path. -/
def readPath (text : List Char) : List Char :=
  match text.filter fun c => !isDropped c with
  | [] | '?' :: _ | '#' :: _ => []
  | c :: rest =>
    let relative := if c = '/' then rest else c :: rest
    let segments := (Text.fields '/' relative).map (Text.Percent.encode Text.Percent.isPathEscaped)
    (resolve [] segments).flatMap ('/' :: ·)

/-- Read a text as the path, in place of the one that is there. -/
def setPath (u : Url) (text : String) : Url := { u with path := readPath text.toList }

/-- Add parameters behind those that the query has already. -/
def appendParameters (u : Url) (parameters : List (String × String)) : Url :=
  let added := Text.Form.encode parameters
  let query := match u.query with
    | none | some [] => added
    | some query => if added.isEmpty then query else query ++ '&' :: added
  { u with query := some query }

end Url

end SqlOperator
