import SessionLayer.Session.Basic

/-!
# Packets to the peer

Payloads go out only while the client is identified. A reliable packet takes the
next free number and is remembered until it is acknowledged. A session is ended
at most once, with a single farewell.
-/

namespace SessionLayer.Session

/-- Takes the next number for a packet: the first behind the last one that no
waiting packet has. -/
def takeSequence (session : Session) : Except Halt (Sequence × Session) := do
  let sequence ← session.pending.freeAfter session.outgoingSequence
  return (sequence, { session with outgoingSequence := sequence })

/-- Sends a datagram and remembers it under its number. -/
def track (session : Session) (sequence : Sequence) (datagram : Bytes) (now : Instant) : Session :=
  let session := session.post datagram
  { session with pending := (session.pending.record sequence datagram now).2 }

/-- Why this session does not send payloads, if it does not. -/
def sendFault? (session : Session) : Option SessionFault :=
  match session.state with
  | .identified => none
  | .unidentified => some (.notIdentified session.client)
  | .disconnecting | .disconnected => some (.closed session.client)

/-- Sends a payload unreliably. -/
def sendUnreliable (session : Session) (payload : Payload) :
    Except SessionFault (Option Sequence) × Session :=
  match (Packet.unreliable payload).encode with
  | .ok datagram => (.ok none, session.post datagram)
  | .error fault => (.error (.encode fault), session)

/-- Sends a payload under a number of its own. The number is taken before the
packet is written, and stays taken if the packet cannot be written. -/
def sendReliable (session : Session) (payload : Payload) (now : Instant) :
    Except Halt (Except SessionFault (Option Sequence) × Session) := do
  let (sequence, session) ← session.takeSequence
  match (Packet.reliable sequence payload).encode with
  | .ok datagram => return (.ok (some sequence), session.track sequence datagram now)
  | .error fault => return (.error (.encode fault), session)

/-- Sends a payload. The answer to a reliable one is its number. -/
def send (session : Session) (payload : Payload) (reliable : Bool) (now : Instant) :
    Except Halt (Except SessionFault (Option Sequence) × Session) :=
  match session.sendFault? with
  | some fault => .ok (.error fault, session)
  | none =>
    if reliable then session.sendReliable payload now else .ok (session.sendUnreliable payload)

/-- Sends a ping that wants to be acknowledged, and says under which number. -/
def sendPing (session : Session) (now : Instant) : Except Halt (Sequence × Session) := do
  let (sequence, session) ← session.takeSequence
  match (Packet.ping sequence).encode with
  | .ok datagram => return (sequence, session.track sequence datagram now)
  | .error _ => return (sequence, session)

/-- The datagram that ends a session; a bare one where the farewell does not fit
into it. -/
def farewellDatagram (farewell : Option Farewell) : Bytes :=
  match (Packet.disconnect farewell).encode with
  | .ok datagram => datagram
  | .error _ => [PacketKind.disconnect.tag]

/-- Ends a session and says whether this did it: a session that is over, or
whose end was sent, is left alone. -/
def disconnect (session : Session) (farewell : Option Farewell) : Bool × Session :=
  if session.sentDisconnect || !session.state.isOpen then (false, session)
  else
    let session := session.post (farewellDatagram farewell)
    (true, { session with sentDisconnect := true, state := .disconnecting })

end SessionLayer.Session
