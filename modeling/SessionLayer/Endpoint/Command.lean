import SessionLayer.Endpoint.Basic

/-!
# Commands of the application

The application names clients by their numbers. A command to a client that is
not there fails and changes nothing.
-/

namespace SessionLayer.Endpoint

/-- The session of a client together with its address. -/
def find? (endpoint : Endpoint) (client : ClientId) : Option (Address × Session) := do
  let remote ← endpoint.roster.addressOf? client
  return (remote, ← endpoint.roster.get? remote)

/-- Sends a payload to a client. The answer to a reliable one is its number. -/
def send (endpoint : Endpoint) (client : ClientId) (payload : Payload) (reliable : Bool)
    (now : Instant) : Except Halt (Except SessionFault (Option Sequence) × Endpoint) :=
  match endpoint.find? client with
  | none => .ok (.error (.notFound client), endpoint)
  | some (remote, session) => do
    let (answer, session) ← session.send payload reliable now
    let endpoint := endpoint.put remote session
    match answer with
    | .ok sequence => return (.ok sequence, endpoint.flush remote)
    | .error fault => return (.error fault, endpoint)

/-- Ends the session of a client with a farewell. -/
def disconnect (endpoint : Endpoint) (client : ClientId) (farewell : Farewell) :
    Except SessionFault Report × Endpoint :=
  match endpoint.roster.addressOf? client with
  | none => (.error (.notFound client), endpoint)
  | some remote =>
    let (report, endpoint) := endpoint.close remote farewell .byServer
    (.ok report, endpoint)

/-- Ends the session of a client with a text in its own locale. -/
def disconnectLocalized (endpoint : Endpoint) (client : ClientId) (reason : DisconnectReason)
    (text : LocalizedText) (args : List String) : Except SessionFault Report × Endpoint :=
  match endpoint.roster.addressOf? client with
  | none => (.error (.notFound client), endpoint)
  | some remote =>
    let farewell := endpoint.localizedFarewell remote reason text args
    let (report, endpoint) := endpoint.close remote farewell .byServer
    (.ok report, endpoint)

/-- The room with this name, made if there is none. -/
def ensureRoom (endpoint : Endpoint) (name : String) : RoomKey × Endpoint :=
  let (key, rooms) := endpoint.rooms.ensure name
  (key, { endpoint with rooms })

/-- Ends the room with this name and says whether there was one. -/
def dropRoom (endpoint : Endpoint) (name : String) : Bool × Endpoint :=
  let (existed, rooms) := endpoint.rooms.drop name
  (existed, { endpoint with rooms })

/-- Puts an identified client into a room. -/
def attachRoom (endpoint : Endpoint) (client : ClientId) (room : RoomKey) :
    Except SessionFault Unit × Endpoint :=
  match endpoint.find? client with
  | none => (.error (.notFound client), endpoint)
  | some (remote, session) =>
    if session.isIdentified then (.ok (), endpoint.put remote (session.setRoom room))
    else (.error (.notIdentified client), endpoint)

/-- Takes a client out of its room, without telling the room. -/
def detachRoom (endpoint : Endpoint) (client : ClientId) : Except SessionFault Unit × Endpoint :=
  match endpoint.find? client with
  | none => (.error (.notFound client), endpoint)
  | some (remote, session) => (.ok (), endpoint.put remote session.clearRoom)

/-- Bans a host and ends all its sessions. -/
def ban (endpoint : Endpoint) (host : Host) (duration : Span) (now : Instant) :
    Except Halt (Report × Endpoint) := do
  let penalties ← endpoint.penalties.ban host duration now
  return { endpoint with penalties }.disconnectBanned host duration

/-- Lifts the ban of a host and says whether there was one. -/
def unban (endpoint : Endpoint) (host : Host) : Bool × Endpoint :=
  let (lifted, penalties) := endpoint.penalties.unban host
  (lifted, { endpoint with penalties })

/-- Whether a host is banned. -/
def isBanned (endpoint : Endpoint) (host : Host) (now : Instant) : Bool :=
  endpoint.penalties.isBanned host now

/-- The farewell of a server that stops. -/
def closeForShutdown (endpoint : Endpoint) (remote : Address) : Report × Endpoint :=
  endpoint.close remote (.plain .serverRequest) .byServer

/-- Ends all sessions. -/
def shutdown (endpoint : Endpoint) : Report × Endpoint :=
  endpoint.atEach endpoint.roster.addresses closeForShutdown

end SessionLayer.Endpoint
