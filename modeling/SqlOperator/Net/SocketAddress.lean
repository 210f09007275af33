import SqlOperator.Net.IpAddress

/-!
# Socket addresses

An address and a port: `address:port` for IPv4, `[address]:port` for IPv6, where
the number of a scope may follow the address after a percent sign.
-/

namespace SqlOperator

/-- An address and a port; the scope of an IPv6 address is zero unless it has one. -/
inductive SocketAddress where
  | v4 (address : Ipv4Address) (port : UInt16)
  | v6 (address : Ipv6Address) (scope : UInt32) (port : UInt16)
  deriving DecidableEq

namespace SocketAddress

/-- A number of 16 bits. -/
def port? (digits : List Char) : Option UInt16 :=
  (Text.decimal? digits).bind fun n => if n < 65536 then some (UInt16.ofNat n) else none

/-- A number of 32 bits. -/
def scope? (digits : List Char) : Option UInt32 :=
  (Text.decimal? digits).bind fun n => if n < 4294967296 then some (UInt32.ofNat n) else none

/-- An IPv6 address stands in brackets, and its scope with it. -/
def parse? (text : String) : Option SocketAddress :=
  match text.toList with
  | '[' :: rest => do
    let (inside, port) ← Text.cutFirst? [']', ':'] rest
    match Text.cutFirst? ['%'] inside with
    | some (address, scope) =>
      some (.v6 (← Ipv6Address.parse? address) (← scope? scope) (← port? port))
    | none => some (.v6 (← Ipv6Address.parse? inside) 0 (← port? port))
  | cs => do
    let (address, port) ← Text.cutFirst? [':'] cs
    some (.v4 (← Ipv4Address.parse? address) (← port? port))

/-- The literal with the port; a scope of zero is not written. -/
def render : SocketAddress → String
  | .v4 address port => String.ofList (address.render ++ ':' :: Nat.toDigits 10 port.toNat)
  | .v6 address scope port =>
    let zone := if scope = 0 then [] else '%' :: Nat.toDigits 10 scope.toNat
    String.ofList
      ('[' :: (address.renderMapped ++ zone ++ ']' :: ':' :: Nat.toDigits 10 port.toNat))

end SocketAddress

end SqlOperator
