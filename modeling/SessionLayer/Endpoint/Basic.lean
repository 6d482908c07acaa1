import SessionLayer.Endpoint.Roster
import SessionLayer.Flood.Penalty
import SessionLayer.Session.Incoming
import SessionLayer.Session.Outgoing
import SessionLayer.Text.Duration

/-!
# Endpoints

An endpoint joins the sessions of all peers with the penalties of their hosts.
It turns datagrams into events for the application, and the application's
commands into datagrams, which wait until they are fetched. This module holds
what all its operations have in common: fetching datagrams from a session, and
ending a session.
-/

namespace SessionLayer

/-- What the application is told. -/
inductive Event
  /-- A client has said who it is. -/
  | identified (client : ClientId) (remote : Address) (identity : ClientIdentity)
  | message (client : ClientId) (payload : Payload) (reliable : Bool)
  /-- An identified client is gone. -/
  | disconnected (client : ClientId) (remote : Address) (cause : DisconnectCause)
  deriving DecidableEq

/-- The client that an event is about. -/
def Event.client : Event → ClientId
  | .identified client _ _ | .message client _ _ | .disconnected client _ _ => client

/-- A room is told that a client is gone. -/
structure Detachment where
  room : RoomKey
  client : ClientId
  cause : DisconnectCause
  deriving DecidableEq

/-- Whom an operation tells what, in order. -/
structure Report where
  events : List Event
  detached : List Detachment
  deriving DecidableEq

namespace Report

/-- Nobody is told anything. -/
def empty : Report := ⟨[], []⟩

instance : Inhabited Report := ⟨empty⟩

/-- Only the application is told something. -/
def ofEvents (events : List Event) : Report := ⟨events, []⟩

/-- One report after another. -/
def append (first second : Report) : Report :=
  ⟨first.events ++ second.events, first.detached ++ second.detached⟩

instance : Append Report := ⟨append⟩

end Report

/-- The sessions of all peers and the penalties of their hosts. -/
structure Endpoint where
  settings : EndpointSettings
  roster : Roster
  penalties : PenaltyBook
  /-- The datagrams that wait to be fetched, each with its destination. -/
  outgoing : Queue (Address × Bytes)
  rooms : RoomTable

namespace Endpoint

/-- An endpoint without sessions. Settings that it cannot work with are
raised. -/
def create (settings : EndpointSettings) : Endpoint :=
  let settings := settings.validated
  { settings
    roster := .empty settings.session settings.flood
    penalties := .empty settings.penalty
    outgoing := .empty
    rooms := .empty }

/-- Fetches the datagrams that wait. -/
def drainOutgoing (endpoint : Endpoint) : List (Address × Bytes) × Endpoint :=
  (endpoint.outgoing.toList, { endpoint with outgoing := .empty })

/-- Puts datagrams for a peer behind those that wait. -/
def enqueue (endpoint : Endpoint) (remote : Address) (datagrams : List Bytes) : Endpoint :=
  { endpoint with
    outgoing := endpoint.outgoing.append (datagrams.map fun bytes => (remote, bytes)) }

/-- Stores the session of a peer. -/
def put (endpoint : Endpoint) (remote : Address) (session : Session) : Endpoint :=
  { endpoint with roster := endpoint.roster.put remote session }

/-- Fetches the datagrams of a session. -/
def flush (endpoint : Endpoint) (remote : Address) : Endpoint :=
  match endpoint.roster.get? remote with
  | none => endpoint
  | some session =>
    let (datagrams, session) := session.takeOutgoing
    (endpoint.put remote session).enqueue remote datagrams

/-- What a room and the application are told when a session is taken out. The
application hears only of clients that have said who they are. -/
def farewellReport (rooms : RoomTable) (remote : Address) (session : Session)
    (cause : DisconnectCause) : Report where
  events :=
    if session.isIdentified then [.disconnected session.client remote cause] else []
  detached := (session.liveRoom? rooms).toList.map fun room => ⟨room, session.client, cause⟩

/-- Takes out the session of a peer, with its last datagrams. -/
def teardown (endpoint : Endpoint) (remote : Address) (cause : DisconnectCause) :
    Report × Endpoint :=
  match endpoint.roster.remove remote with
  | (none, _) => (.empty, endpoint)
  | (some session, roster) =>
    (farewellReport endpoint.rooms remote session cause,
      { endpoint with roster }.enqueue remote session.takeOutgoing.1)

/-- Sends a farewell to a peer and takes out its session. -/
def close (endpoint : Endpoint) (remote : Address) (farewell : Farewell)
    (cause : Farewell → DisconnectCause) : Report × Endpoint :=
  let endpoint :=
    match endpoint.roster.get? remote with
    | none => endpoint
    | some session => endpoint.put remote (session.disconnect (some farewell)).2
  endpoint.teardown remote (cause farewell)

/-- A farewell with a text in the client's locale. Without a template for the
text it is a plain error. -/
def localizedFarewell (endpoint : Endpoint) (remote : Address) (reason : DisconnectReason)
    (text : LocalizedText) (args : List String) : Farewell :=
  let usual := endpoint.settings.defaultLocale
  let message :=
    match endpoint.roster.get? remote with
    | some session => session.localize text usual args
    | none => text.format none usual args
  match message with
  | some message => ⟨reason, some message⟩
  | none => .plain .error

/-- Runs an operation at one address after the other. -/
def atEach (endpoint : Endpoint) (addresses : List Address)
    (operation : Endpoint → Address → Report × Endpoint) : Report × Endpoint :=
  addresses.foldl
    (fun (report, endpoint) remote =>
      let (more, endpoint) := operation endpoint remote
      (report ++ more, endpoint))
    (.empty, endpoint)

/-- Takes out the session of a peer whose host is banned for `duration`. -/
def closeBanned (duration : Span) (endpoint : Endpoint) (remote : Address) : Report × Endpoint :=
  endpoint.close remote
    (endpoint.localizedFarewell remote .banned endpoint.settings.penalty.banMessage
      [duration.describe])
    .banned

/-- Takes out all sessions of a host that is banned for `duration`. -/
def disconnectBanned (endpoint : Endpoint) (host : Host) (duration : Span) : Report × Endpoint :=
  endpoint.atEach (endpoint.roster.addresses.filter fun remote => remote.host = host)
    (closeBanned duration)

end Endpoint

end SessionLayer
