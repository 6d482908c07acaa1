import SessionLayer.Packet.Farewell
import SessionLayer.Packet.Hello
import SessionLayer.Packet.Kind
import SessionLayer.Packet.Payload

/-!
# Packets

A datagram is the byte of its kind, the number of the packet where the kind has
one, and a body. `Packet.decode` and `Packet.encode` go between datagrams
and packets; nothing else looks into the bytes of a datagram.

What follows a greeting or a farewell is ignored. An acknowledgement and a ping
have a fixed size, so bytes behind them mean that the sender speaks another
protocol.
-/

namespace SessionLayer

/-- The number of a packet. Numbers go round: after the largest comes zero. -/
abbrev Sequence := UInt16

/-- A decoded datagram. -/
inductive Packet
  | unreliable (payload : Payload)
  | reliable (sequence : Sequence) (payload : Payload)
  | hello (sequence : Sequence) (greeting : Hello)
  /-- The end of a session; `none` is a bare one. -/
  | disconnect (farewell : Option Farewell)
  /-- The peer received packet `sequence`; `missing` marks recent packets that it
  did not, and nothing depends on it. -/
  | acknowledge (sequence : Sequence) (missing : UInt8)
  | ping (sequence : Sequence)
  deriving DecidableEq

namespace Packet

/-- The kind of a packet. -/
def kind : Packet → PacketKind
  | .unreliable _ => .unreliable
  | .reliable _ _ => .reliable
  | .hello _ _ => .hello
  | .disconnect _ => .disconnect
  | .acknowledge _ _ => .acknowledge
  | .ping _ => .ping

/-- The number of a packet, for the kinds that have one. -/
def sequence? : Packet → Option Sequence
  | .reliable sequence _ | .hello sequence _ | .acknowledge sequence _ | .ping sequence =>
    some sequence
  | .unreliable _ | .disconnect _ => none

/-- The acknowledgement that the server sends: nothing is marked as missing. -/
def ack (sequence : Sequence) : Packet := .acknowledge sequence 0xff

/-- Refuses bytes behind a packet of fixed size. -/
def expectEnd (kind : PacketKind) : Reader Unit := do
  let left ← Reader.remaining
  if left ≠ 0 then
    throw (.malformed (toString left ++ " trailing byte(s) after " ++ kind.name))

/-- Reads what follows the kind byte. -/
def readBody : PacketKind → Reader Packet
  | .unreliable => .unreliable <$> Payload.read
  | .reliable => do
    let sequence ← Reader.u16be
    return .reliable sequence (← Payload.read)
  | .hello => do
    let sequence ← Reader.u16be
    return .hello sequence (← Hello.read)
  | .disconnect => .disconnect <$> Farewell.read
  | .acknowledge => do
    let sequence ← Reader.u16be
    let missing ← Reader.ifPresent 1 0xff Reader.u8
    expectEnd .acknowledge
    return .acknowledge sequence missing
  | .ping => do
    let sequence ← Reader.u16be
    expectEnd .ping
    return .ping sequence

/-- The packet of a datagram, or why there is none. -/
def decode (datagram : Bytes) : Except WireFault Packet := do
  let kind ← PacketKind.peek datagram
  (readBody kind).decode datagram.tail

/-- What follows the kind byte, or why it cannot be written. -/
def encodeBody : Packet → Except WireFault Bytes
  | .unreliable payload => payload.encode
  | .reliable sequence payload => (Wire.u16be sequence ++ ·) <$> payload.encode
  | .hello sequence greeting => (Wire.u16be sequence ++ ·) <$> greeting.encode
  | .disconnect none => .ok []
  | .disconnect (some farewell) => farewell.encode
  | .acknowledge sequence missing => .ok (Wire.u16be sequence ++ [missing])
  | .ping sequence => .ok (Wire.u16be sequence)

/-- The datagram of a packet that can be packed, or why it has none. -/
def encode (packet : Packet) : Except WireFault Bytes :=
  (packet.kind.tag :: ·) <$> packet.encodeBody

/-- Only a greeting holds a number that is packed: the build of the client. -/
def Packable : Packet → Prop
  | .hello _ greeting => greeting.version.Packable
  | _ => True

instance (packet : Packet) : Decidable packet.Packable := by
  unfold Packable
  split <;> infer_instance

/-- Writes a packet: its datagram, or why it has none. The packets of a server
are no greetings, so that it may use `encode` for them. -/
def write (packet : Packet) : Except Halt (Except WireFault Bytes) :=
  if packet.Packable then .ok packet.encode else .error .packingOverflow

/-- Every part of a packet is the one that its number on the wire stands for. -/
def Canonical : Packet → Prop
  | .hello _ greeting => greeting.Canonical
  | .disconnect (some farewell) => farewell.reason.Canonical
  | _ => True

instance (packet : Packet) : Decidable packet.Canonical := by
  unfold Canonical
  split <;> infer_instance

end Packet

end SessionLayer
