import SessionLayer.Proofs.Endpoint.Course

/-!
# The annals of a run

What the sessions of an endpoint queue is decided by the sessions: a packet, a payload, a
look after it or a farewell is handed to a session, and what its outbox has more afterwards
is what it has queued. `Endpoint.incidents` reads off an endpoint and an operation which
sessions are made by it, what is handed to which sessions and what they queue thereby, and
which of them end for which cause. It knows nothing of how datagrams are fetched from a
session, nor of the queue in which they wait. `Endpoint.annals` gathers the incidents of a run.
-/

namespace SessionLayer

/-- Something that happens to the sessions of an endpoint. -/
inductive Incident
  /-- A session is made for an address. -/
  | made (remote : Address)
  /-- The session with an address queues a datagram. -/
  | queued (remote : Address) (datagram : Bytes)
  /-- The session with an address ends. -/
  | ended (remote : Address) (client : ClientId) (identified : Bool) (cause : DisconnectCause)
  /-- A peer is told that its host is banned. No session queues this. -/
  | noticed (remote : Address) (notice : Bytes)
  deriving DecidableEq

namespace Incident

/-- The datagram of an incident, with its destination. -/
def datagram? : Incident → Option (Address × Bytes)
  | .made _ | .ended _ _ _ _ => none
  | .queued remote datagram | .noticed remote datagram => some (remote, datagram)

/-- The datagram of an incident, if a session has queued it, with the address of the session. -/
def queued? : Incident → Option (Address × Bytes)
  | .made _ | .ended _ _ _ _ | .noticed _ _ => none
  | .queued remote datagram => some (remote, datagram)

/-- What the application is to hear of an incident: that an identified client is gone. -/
def parting? : Incident → Option Event
  | .ended remote client true cause => some (.disconnected client remote cause)
  | .ended _ _ false _ | .made _ | .queued _ _ | .noticed _ _ => none

end Incident

/-- Whether this tells that a client is gone. -/
def Event.isParting : Event → Bool
  | .disconnected _ _ _ => true
  | .identified _ _ _ | .message _ _ _ => false

/-! ## What a session queues -/

/-- The datagram of a payload that was sent under this number, or under none. -/
def Payload.datagram (payload : Payload) : Option Sequence → Except WireFault Bytes
  | none => (Packet.unreliable payload).encode
  | some sequence => (Packet.reliable sequence payload).encode

namespace Session

/-- What the outbox of a session has more once the session is `next`. -/
def queuing (session next : Session) : List Incident :=
  (next.outbox.toList.drop session.outbox.toList.length).map (.queued session.remote)

/-- A session queues what its outbox has more once it is `last`, and ends. -/
def parting (session last : Session) (cause : DisconnectCause) : List Incident :=
  session.queuing last ++ [.ended session.remote session.client session.isIdentified cause]

/-- A session is sent away with a farewell. -/
def dismissal (session : Session) (farewell : Farewell) (cause : DisconnectCause) :
    List Incident :=
  session.parting (session.disconnect (some farewell)).2 cause

/-- A session takes a packet. It ends if the packet is the farewell of its peer. -/
def reception (session : Session) (packet : Packet) (now : Instant) : List Incident :=
  let next := (session.handlePacket packet now).2
  match packet, session.state.isOpen with
  | .disconnect farewell, true => session.parting next (.byPeer farewell)
  | _, _ => session.queuing next

/-- A session is to send a payload. One that is sent is queued as one datagram. -/
def posting (session : Session) (payload : Payload) (reliable : Bool) (now : Instant) :
    List Incident :=
  match session.send payload reliable now with
  | .ok (.ok number, _) =>
    (payload.datagram number).toOption.toList.map (.queued session.remote)
  | .ok (.error _, _) | .error _ => []

/-- A session is looked after. It ends if its peer has fallen silent. -/
def tending (session : Session) (now : Instant) : List Incident :=
  match session.maintain now with
  | .error _ => []
  | .ok (upkeep, next) =>
    match upkeep.health with
    | .alive => session.queuing next
    | .unresponsive => session.parting (next.disconnect (some (.plain .none))).2 .timeout
    | .idle => session.parting next .timeout

end Session

/-! ## What an operation brings about -/

namespace Endpoint

/-- The session of a peer is sent away, if there is one. -/
def dismissalAt (endpoint : Endpoint) (remote : Address) (farewell : Farewell)
    (cause : Farewell → DisconnectCause) : List Incident :=
  match endpoint.roster.get? remote with
  | none => []
  | some session => session.dismissal farewell (cause farewell)

/-- The session of a peer is looked after, if there is one. -/
def tendingAt (endpoint : Endpoint) (now : Instant) (remote : Address) : List Incident :=
  match endpoint.roster.get? remote with
  | none => []
  | some session => session.tending now

/-- The session of a client is sent away, if there is one. -/
def dismissalOf (endpoint : Endpoint) (client : ClientId) (farewell : Address → Farewell) :
    List Incident :=
  match endpoint.roster.addressOf? client with
  | none => []
  | some remote => endpoint.dismissalAt remote (farewell remote) .byServer

/-- What is said to a client whose host is banned. -/
def banFarewell (endpoint : Endpoint) (duration : Span) (remote : Address) : Farewell :=
  endpoint.localizedFarewell remote .banned endpoint.settings.penalty.banMessage
    [duration.describe]

/-- All sessions of a host are sent away. -/
def banishment (endpoint : Endpoint) (host : Host) (duration : Span) : List Incident :=
  (endpoint.roster.addresses.filter fun remote => remote.host = host).flatMap fun remote =>
    endpoint.dismissalAt remote (endpoint.banFarewell duration remote) .banned

/-- A peer is punished for flooding. -/
def punishment (endpoint : Endpoint) (remote : Address) (now : Instant) : List Incident :=
  match endpoint.penalties.recordOffense remote.host now with
  | .ok (.disconnect, _) =>
    endpoint.dismissalAt remote
      (endpoint.localizedFarewell remote .custom endpoint.settings.penalty.disconnectMessage [])
      .rateLimited
  | .ok (.ban duration, _) => endpoint.banishment remote.host duration
  | .error _ => []

/-- A datagram that no gate holds back comes to the session of its sender. -/
def admission (endpoint : Endpoint) (remote : Address) (session : Session) (kind : PacketKind)
    (bytes : Bytes) (now : Instant) : List Incident :=
  match session.checkRate kind.trafficClass now with
  | .ok (.accept, next) =>
    match Packet.decode bytes with
    | .ok packet => next.reception packet now
    | .error _ => []
  | .ok (.penalize, next) => (endpoint.put remote next).punishment remote now
  | .ok (.drop _, _) | .error _ => []

/-- A datagram comes from a banned host: a greeting is answered now and then. -/
def refusal (endpoint : Endpoint) (remote : Address) (bytes : Bytes) (remaining : Span)
    (now : Instant) : List Incident :=
  match PacketKind.peek bytes with
  | .ok .hello =>
    if (endpoint.penalties.grantNotice remote.host now).1 then
      (Packet.disconnect (some (endpoint.banNotice (helloLocale? bytes) remaining))).encode
        |>.toOption.toList.map (.noticed remote)
    else []
  | _ => []

/-- A datagram comes in. -/
def arrival (endpoint : Endpoint) (remote : Address) (bytes : Bytes) (now : Instant) :
    List Incident :=
  if endpoint.settings.flood.maxPacketSize < bytes.length then []
  else
    match endpoint.penalties.banRemaining remote.host now, PacketKind.peek bytes with
    | some remaining, _ => endpoint.refusal remote bytes remaining now
    | none, .error _ => []
    | none, .ok kind =>
      match endpoint.roster.get? remote with
      | some session => endpoint.admission remote session kind bytes now
      | none =>
        match Session.create endpoint.roster.nextClient remote endpoint.roster.settings
          endpoint.roster.flood now with
        | .ok session =>
          .made remote ::
            (endpoint.enrol remote session).admission remote session kind bytes now
        | .error _ => []

/-- The incidents of an operation, in order. -/
def incidents (endpoint : Endpoint) : Operation → List Incident
  | .datagram remote bytes now => endpoint.arrival remote bytes now
  | .send client payload reliable now =>
    match endpoint.find? client with
    | none => []
    | some (_, session) => session.posting payload reliable now
  | .disconnect client farewell => endpoint.dismissalOf client fun _ => farewell
  | .disconnectLocalized client reason text args =>
    endpoint.dismissalOf client fun remote => endpoint.localizedFarewell remote reason text args
  | .ban host duration _ => endpoint.banishment host duration
  | .sweep now => endpoint.roster.addresses.flatMap (endpoint.tendingAt now)
  | .shutdown =>
    endpoint.roster.addresses.flatMap fun remote =>
      endpoint.dismissalAt remote (.plain .serverRequest) .byServer
  | .attachRoom _ _ | .detachRoom _ | .unban _ | .ensureRoom _ | .dropRoom _ | .drain => []

/-- The incidents of a run, in order. -/
def annals (endpoint : Endpoint) : List Operation → List Incident
  | [] => []
  | operation :: rest =>
    match endpoint.apply operation with
    | .ok (_, next) => endpoint.incidents operation ++ next.annals rest
    | .error _ => []

theorem annals_cons {start middle : Endpoint} {operation : Operation} {outcome : Outcome}
    (applied : start.apply operation = .ok (outcome, middle)) (rest : List Operation) :
    start.annals (operation :: rest) = start.incidents operation ++ middle.annals rest := by
  rw [annals, applied]

end Endpoint

end SessionLayer
