import SessionLayer.Net.Address

/-!
# Where a server listens

The address to listen on is written more freely than the address of a peer. A
host of the fourth version may stand there as one to four numbers in decimal,
octal or hexadecimal, the last of which fills all bytes that are left; a host of
the sixth version needs no brackets, since the port is what follows the last
colon. A host is not looked up by its name.
-/

namespace SessionLayer

namespace IPv4

/-- The address whose bytes are the digits of a number. -/
def ofNumber (number : Nat) : IPv4 :=
  let byte (place : Nat) : UInt8 := UInt8.ofNat (number / place)
  ⟨#v[byte 16777216, byte 65536, byte 256, byte 1]⟩

/-- The number that digits write: hexadecimal ones behind `0x`, octal ones behind
a zero, decimal ones otherwise. -/
def part? : List Char → Option Nat
  | ['0'] => some 0
  | '0' :: 'x' :: digits | '0' :: 'X' :: digits => Digits.number? 16 digits
  | '0' :: digits => Digits.number? 8 digits
  | digits => Digits.number? 10 digits

/-- The number that is left for the last part, below `bound`, behind the bytes in
front of it. -/
def joined? (bound : Nat) : List Nat → Option Nat
  | [] => none
  | [last] => if last < bound then some last else none
  | byte :: rest =>
    if byte < 256 then (joined? (bound / 256) rest).map (byte * (bound / 256) + ·) else none

/-- The address that one to four numbers with points between them write. -/
def ofParts? (text : List Char) : Option IPv4 := do
  let parts ← (text.splitOn '.').mapM part?
  if 4 < parts.length then none else (joined? UInt32.size parts).map ofNumber

end IPv4

namespace Address

/-- What stands in front of the last colon of a text, and what follows it. -/
def splitAtLastColon? (text : List Char) : Option (List Char × List Char) :=
  match text.reverse.span (· ≠ ':') with
  | (port, ':' :: host) => some (host.reverse, port.reverse)
  | _ => none

/-- The port that digits write, which may have a plus sign. -/
def signedPort? : List Char → Option UInt16
  | '+' :: digits => port? digits
  | digits => port? digits

/-- The address to listen on with this text. -/
def listening? (text : String) : Option Address :=
  ofText? text <|> do
    let (host, port) ← splitAtLastColon? text.toList
    let port ← signedPort? port
    (IPv4.ofParts? host).map (.v4 · port)
      <|> (scoped? host).map fun (ip, scope) => .v6 ip scope port

end Address

end SessionLayer
