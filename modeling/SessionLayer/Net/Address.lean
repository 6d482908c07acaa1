import SessionLayer.Net.Host

/-!
# Addresses

A peer is known by its host and a port. Where hosts are reached over several
networks, one of the sixth version may be the same on each of them; the scope of
the peer's address tells which network is meant. Peers of one host share what is
kept by host, whatever their ports and scopes are.
-/

namespace SessionLayer

/-- The address of a peer. -/
inductive Address
  | v4 (ip : IPv4) (port : UInt16)
  /-- The scope is zero where no network is named. -/
  | v6 (ip : IPv6) (scope : UInt32) (port : UInt16)
  deriving DecidableEq, Inhabited

namespace Address

/-- The host of a peer. -/
def host : Address → Host
  | v4 ip _ => .v4 ip
  | v6 ip _ _ => .v6 ip

/-- The port of a peer. -/
def port : Address → UInt16
  | v4 _ port => port
  | v6 _ _ port => port

/-- The text of an address. A host of the sixth version stands in brackets, as
there are colons in it. -/
def text : Address → String
  | v4 ip port => ip.text ++ ":" ++ toString port.toNat
  | v6 ip scope port =>
    let named := if scope = 0 then "" else "%" ++ toString scope.toNat
    "[" ++ ip.text ++ named ++ "]:" ++ toString port.toNat

/-- The port that decimal digits write. -/
def port? (digits : List Char) : Option UInt16 :=
  (Digits.below? UInt16.size 10 digits).map UInt16.ofNat

/-- The scope that decimal digits write. -/
def scope? (digits : List Char) : Option UInt32 :=
  (Digits.below? UInt32.size 10 digits).map UInt32.ofNat

/-- The host of the sixth version and the scope that stand in brackets. -/
def scoped? (text : List Char) : Option (IPv6 × UInt32) := do
  match text.splitOn '%' with
  | [ip] => return (← IPv6.ofText? ip, 0)
  | [ip, scope] => return (← IPv6.ofText? ip, ← scope? scope)
  | _ => none

/-- The address with this text. -/
def ofText? (text : String) : Option Address := do
  match text.toList with
  | '[' :: bracketed =>
    match bracketed.splitOn ']' with
    | [inside, ':' :: port] =>
      let (ip, scope) ← scoped? inside
      return .v6 ip scope (← port? port)
    | _ => none
  | plain =>
    match plain.splitOn ':' with
    | [ip, port] => return .v4 (← IPv4.ofText? ip) (← port? port)
    | _ => none

end Address

end SessionLayer
