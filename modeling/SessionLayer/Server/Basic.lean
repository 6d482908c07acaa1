import SessionLayer.Endpoint.Run
import SessionLayer.Server.Fault
import SessionLayer.Timer

/-!
# The server

A server takes one thing at a time: a datagram, a command, or the timer coming
due. It does to its endpoint what is asked, sends the datagrams that this
produced, and tells the application. The application may answer a message with
commands, which wait their turn.
-/

namespace SessionLayer

/-- A command of the application. Each becomes one operation on the endpoint. -/
inductive Command
  | send (client : ClientId) (payload : Payload) (reliable : Bool)
  | disconnect (client : ClientId) (farewell : Farewell)
  | disconnectLocalized (client : ClientId) (reason : DisconnectReason) (text : LocalizedText)
      (args : List String)
  | attachRoom (client : ClientId) (room : RoomKey)
  | detachRoom (client : ClientId)
  | ban (host : Host) (duration : Span)
  | unban (host : Host)
  | shutdown

namespace Command

/-- What a command does to the endpoint. -/
def operation (command : Command) (now : Instant) : Operation :=
  match command with
  | .send client payload reliable => .send client payload reliable now
  | .disconnect client farewell => .disconnect client farewell
  | .disconnectLocalized client reason text args => .disconnectLocalized client reason text args
  | .attachRoom client room => .attachRoom client room
  | .detachRoom client => .detachRoom client
  | .ban host duration => .ban host duration now
  | .unban host => .unban host
  | .shutdown => .shutdown

/-- Whether a command stops the server. -/
def stops : Command → Bool
  | .shutdown => true
  | _ => false

end Command

/-- How an application answers a message: the client that sent it, its payload,
and whether it came reliably. -/
abbrev Application := ClientId → Payload → Bool → List Command

namespace Application

/-- An application that answers nothing. -/
def silent : Application := fun _ _ _ => []

/-- An application that sends every message back. -/
def echo : Application := fun client payload reliable => [.send client payload reliable]

/-- The answers to the messages among events, in order. -/
def answers (application : Application) (events : List Event) : List Command :=
  events.flatMap fun
    | .message client payload reliable => application client payload reliable
    | _ => []

end Application

/-- A server that listens. -/
structure Server where
  endpoint : Endpoint
  timer : SweepTimer
  /-- The size of the buffer that datagrams are received into. -/
  receiveBuffer : Nat
  hasStopped : Bool

/-- What the world sees of a server's doing. -/
structure Effects where
  report : Report
  /-- The datagrams that were sent, each with its destination. -/
  sent : List (Address × Bytes)

namespace Effects

/-- Nothing was done. -/
def empty : Effects := ⟨.empty, []⟩

/-- One doing after another. -/
def append (first second : Effects) : Effects :=
  ⟨first.report ++ second.report, first.sent ++ second.sent⟩

instance : Append Effects := ⟨append⟩

end Effects

namespace Server

/-- The timer that a server with these settings uses. -/
def sweepSettings (settings : ServerSettings) : SweepSettings :=
  if settings.sweepIntervalMs = 0 then .disabled else .every settings.sweepInterval

/-- Starts a server, its first sweep put off by `delay`. The buffer gets its
memory at once. -/
def start (settings : ServerSettings) (now : Instant) (delay : Span) : Except Halt Server := do
  Memory.reserve settings.receiveBuffer 1
  return {
    endpoint := .create settings.endpoint
    timer := ← SweepTimer.start (sweepSettings settings) now delay
    receiveBuffer := settings.receiveBuffer
    hasStopped := false }

/-- Does one operation and sends what it produced. Datagrams that are larger
than the network carries are lost. An operation that does not return brings
forth nothing and stops the server. -/
def perform (server : Server) (operation : Operation) : Effects × Server :=
  match server.endpoint.apply operation with
  | .error _ => (.empty, { server with hasStopped := true })
  | .ok (outcome, endpoint) =>
    let (datagrams, endpoint) := endpoint.drainOutgoing
    let sent := datagrams.filter fun datagram => datagram.2.length ≤ maxDatagramSize
    (⟨outcome.report, sent⟩, { server with endpoint })

/-- Carries out one command. A command that fails is passed over. -/
def command (server : Server) (command : Command) (now : Instant) : Effects × Server :=
  let (effects, server) := server.perform (command.operation now)
  (effects, { server with hasStopped := server.hasStopped || command.stops })

/-- Carries out commands in order, until the server stops. No command gives rise
to a message, so the application has nothing to answer meanwhile. -/
def commands (now : Instant) : List Command → Server → Effects × Server
  | [], server => (.empty, server)
  | first :: rest, server =>
    if server.hasStopped then (.empty, server)
    else
      let (effects, server) := server.command first now
      let (more, server) := commands now rest server
      (effects ++ more, server)

/-- Does one operation, and then what the application answers to it. -/
def performAnswered (server : Server) (application : Application) (operation : Operation)
    (now : Instant) : Effects × Server :=
  let (effects, server) := server.perform operation
  let (answers, server) := commands now (application.answers effects.report.events) server
  (effects ++ answers, server)

/-- Receives a datagram: as much of it as the buffer holds. -/
def receive (server : Server) (application : Application) (remote : Address) (datagram : Bytes)
    (now : Instant) : Effects × Server :=
  server.performAnswered application (.datagram remote (datagram.take server.receiveBuffer) now) now

/-- Looks at the timer, and sweeps once if it has come due. A timer that halts
stops the server. -/
def tick (server : Server) (application : Application) (now : Instant) : Effects × Server :=
  if server.timer.isDue now then
    match server.timer.wait now with
    | .error _ => (.empty, { server with hasStopped := true })
    | .ok none => (.empty, server)
    | .ok (some (_, timer)) =>
      let timer := timer.recordEnd server.endpoint.roster.size
      { server with timer }.performAnswered application (.sweep now) now
  else (.empty, server)

end Server

end SessionLayer
