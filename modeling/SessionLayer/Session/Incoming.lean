import SessionLayer.Session.Basic

/-!
# Packets from the peer

Greetings, pings and acknowledgements are taken at any time while a session is
open; payloads only after the greeting. Everything that the peer wants
acknowledged is acknowledged, repeats included, so that a peer which missed the
first acknowledgement stops asking.
-/

namespace SessionLayer.Session

/-- Sends an acknowledgement. -/
def postAck (session : Session) (sequence : Sequence) : Session :=
  match (Packet.ack sequence).encode with
  | .ok datagram => session.post datagram
  | .error _ => session

/-- A greeting. Only the first one says who the client is; the numbers of its
packets go on from there. -/
def onHello (session : Session) (sequence : Sequence) (hello : Hello) : List Inbound × Session :=
  let session := session.postAck sequence
  if session.isIdentified then ([], session)
  else
    ([.identified],
      { session with
        history := (session.history.accept sequence).2
        reorder := session.reorder.restart (sequence + 1)
        identity := some (.ofHello hello)
        state := .identified })

/-- An acknowledgement. -/
def onAcknowledge (session : Session) (sequence : Sequence) (now : Instant) : Session :=
  let (outcome, pending) := session.pending.acknowledge sequence now
  let roundTrip :=
    match outcome with
    | .acked (some measured) => some measured
    | _ => session.roundTrip
  { session with pending, roundTrip }

/-- A reliable payload: dropped before the greeting, otherwise acknowledged and,
unless it is a repeat, handed up now or when it is its turn. -/
def onReliable (session : Session) (sequence : Sequence) (payload : Payload) (now : Instant) :
    List Inbound × Session :=
  if !session.isIdentified then ([], session)
  else
    let session := session.postAck sequence
    let (isNew, history) := session.history.accept sequence
    let session := { session with history }
    if !isNew then ([], session)
    else if session.settings.messageOrdering then
      let (ready, reorder) := session.reorder.push sequence payload now
      (ready.map (Inbound.deliver · true), { session with reorder })
    else ([.deliver payload true], session)

/-- An unreliable payload. -/
def onUnreliable (session : Session) (payload : Payload) : List Inbound :=
  if session.isIdentified then [.deliver payload false] else []

/-- Takes a packet while the session is open. -/
def onPacket (session : Session) (packet : Packet) (now : Instant) : List Inbound × Session :=
  match packet with
  | .hello sequence greeting => session.onHello sequence greeting
  | .acknowledge sequence _ => ([], session.onAcknowledge sequence now)
  | .ping sequence => ([], session.postAck sequence)
  | .reliable sequence payload => session.onReliable sequence payload now
  | .unreliable payload => (session.onUnreliable payload, session)
  | .disconnect farewell => ([.peerLeft farewell], { session with state := .disconnecting })

/-- Takes a packet from the peer. A session that is not open ignores it. -/
def handlePacket (session : Session) (packet : Packet) (now : Instant) : List Inbound × Session :=
  if session.state.isOpen then { session with lastReceivedAt := now }.onPacket packet now
  else ([], session)

end SessionLayer.Session
