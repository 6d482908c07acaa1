import SessionLayer.Endpoint.Basic

/-!
# Datagrams from peers

A datagram passes several gates: its size, the ban of its host, its kind, the
session of its sender, the limit of its class, and its content. A gate that
refuses it drops it; only a ban and a penalty say so to the sender.
-/

namespace SessionLayer.Endpoint

/-- The locale of a greeting's sender, as far as the greeting can be read. -/
def helloLocale? (datagram : Bytes) : Option String :=
  match Packet.decode datagram with
  | .ok (.hello _ greeting) => greeting.language.locale?
  | _ => none

/-- The farewell for a client of a host that is still banned for `remaining`. -/
def banNotice (endpoint : Endpoint) (locale : Option String) (remaining : Span) : Farewell where
  reason := .banned
  message :=
    endpoint.settings.penalty.banMessage.format locale endpoint.settings.defaultLocale
      [remaining.describe]

/-- Tells the sender of a greeting how long its host is still banned. -/
def rejectBanned (endpoint : Endpoint) (remote : Address) (datagram : Bytes) (remaining : Span) :
    Endpoint :=
  let farewell := endpoint.banNotice (helloLocale? datagram) remaining
  match (Packet.disconnect (some farewell)).encode with
  | .ok notice => endpoint.enqueue remote [notice]
  | .error _ => endpoint

/-- A datagram from a banned host: a greeting is answered now and then, all else
is dropped. -/
def onBanned (endpoint : Endpoint) (remote : Address) (datagram : Bytes) (remaining : Span)
    (now : Instant) : Endpoint :=
  match PacketKind.peek datagram with
  | .ok .hello =>
    let (granted, penalties) := endpoint.penalties.grantNotice remote.host now
    let endpoint := { endpoint with penalties }
    if granted then endpoint.rejectBanned remote datagram remaining else endpoint
  | _ => endpoint

/-- Punishes a peer for flooding: its session ends, or its host is banned. -/
def penalize (endpoint : Endpoint) (remote : Address) (now : Instant) :
    Except Halt (Report × Endpoint) := do
  let (verdict, penalties) ← endpoint.penalties.recordOffense remote.host now
  let endpoint := { endpoint with penalties }
  match verdict with
  | .disconnect =>
    let farewell :=
      endpoint.localizedFarewell remote .custom endpoint.settings.penalty.disconnectMessage []
    return endpoint.close remote farewell .rateLimited
  | .ban duration => return endpoint.disconnectBanned remote.host duration

/-- What the application is told about something that a session hands up. -/
def eventOf? (remote : Address) (session : Session) : Inbound → Option Event
  | .identified => session.identity.map (.identified session.client remote)
  | .deliver payload reliable => some (.message session.client payload reliable)
  | .peerLeft _ => none

/-- The farewell of a peer that has left. -/
def peerFarewell? (inbound : List Inbound) : Option (Option Farewell) :=
  inbound.findSome? fun
    | .peerLeft farewell => some farewell
    | _ => none

/-- Hands a packet to the session of its sender. -/
def dispatch (endpoint : Endpoint) (remote : Address) (session : Session) (packet : Packet)
    (now : Instant) : Report × Endpoint :=
  let (inbound, session) := session.handlePacket packet now
  let events := Report.ofEvents (inbound.filterMap (eventOf? remote session))
  let endpoint := (endpoint.put remote session).flush remote
  match peerFarewell? inbound with
  | none => (events, endpoint)
  | some farewell =>
    let (report, endpoint) := endpoint.teardown remote (.byPeer farewell)
    (events ++ report, endpoint)

/-- Takes a datagram of a known kind to the session of its sender. -/
def handleKnown (endpoint : Endpoint) (remote : Address) (kind : PacketKind) (datagram : Bytes)
    (now : Instant) : Except Halt (Report × Endpoint) := do
  let (session, _, roster) ← endpoint.roster.lookupOrCreate remote now
  let (decision, session) ← session.checkRate kind.trafficClass now
  let endpoint := { endpoint with roster }.put remote session
  match decision with
  | .drop _ => return (.empty, endpoint)
  | .penalize => endpoint.penalize remote now
  | .accept =>
    match Packet.decode datagram with
    | .error _ => return (.empty, endpoint)
    | .ok packet => return endpoint.dispatch remote session packet now

/-- Takes a datagram from a peer. -/
def handleDatagram (endpoint : Endpoint) (remote : Address) (datagram : Bytes) (now : Instant) :
    Except Halt (Report × Endpoint) :=
  if endpoint.settings.flood.maxPacketSize < datagram.length then .ok (.empty, endpoint)
  else
    match endpoint.penalties.banRemaining remote.host now with
    | some remaining => .ok (.empty, endpoint.onBanned remote datagram remaining now)
    | none =>
      match PacketKind.peek datagram with
      | .error _ => .ok (.empty, endpoint)
      | .ok kind => endpoint.handleKnown remote kind datagram now

end SessionLayer.Endpoint
