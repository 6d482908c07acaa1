import SessionLayer.Net.Listening
import SessionLayer.Server.Basic

/-!
# A server and its clients on one machine

A bench joins a server to client sockets over the loopback interface and a clock
that moves only when it is told to. The interface may be down: the sockets exist
then, but nothing can be sent over it.
-/

namespace SessionLayer

/-- Whether the loopback interface carries datagrams. -/
inductive Loopback
  | up
  | down
  deriving DecidableEq

/-- Why a bench breaks down: a client cannot send. -/
inductive BenchFault
  | unreachable
  deriving DecidableEq

/-- The text of a fault, as the operating system words it. -/
def BenchFault.message : BenchFault → String
  | .unreachable => "Network is unreachable (os error 101)"

namespace Loopback

/-- Whether a socket can have a host of the fourth version. While the interface
is down its machine has no addresses of its own, and a machine that has none
does not check them. -/
def admits4 (loopback : Loopback) (ip : IPv4) : Bool :=
  match loopback with
  | .up => ip.isLoopback || ip.isUnspecified
  | .down => true

/-- Whether a socket can have a host of the sixth version in the network `scope`.
The loopback interface is the only network, and is the first one. -/
def admits6 (loopback : Loopback) (ip : IPv6) (scope : UInt32) : Bool :=
  match ip.mapped? with
  | some inner => loopback.admits4 inner
  | none =>
    if ip.isMulticast then !ip.needsScope || scope = 1
    else ip.isUnspecified || (loopback = .up && ip.isLoopback)

/-- Whether a server can listen on an address: the machine admits its host, and
its port is not reserved. Port zero stands for any that is free. -/
def canListen (loopback : Loopback) (address : Address) : Bool :=
  (address.port = 0 || 1024 ≤ address.port) &&
    match address with
    | .v4 ip _ => loopback.admits4 ip
    | .v6 ip scope _ => loopback.admits6 ip scope

end Loopback

/-- A server, its clients and the clock. -/
structure Bench where
  server : Server
  application : Application
  loopback : Loopback
  /-- The addresses of the clients' sockets. -/
  clients : List Address
  clock : Instant

/-- Something that is done at a bench. -/
inductive BenchStep
  /-- A client sends a datagram. -/
  | datagram (client : Address) (bytes : Bytes)
  /-- The clock moves on. -/
  | advance (span : Span)
  | command (command : Command)
  /-- A command that puts a client into the room with this name. -/
  | attachRoom (client : ClientId) (room : String)

/-- What is seen after a step. -/
structure BenchEntry where
  /-- Why the command was refused, if it was. -/
  refused : Option ServerFault
  effects : Effects

namespace Bench

/-- Lets the server do something. A server that has stopped does nothing. -/
def run (bench : Bench) (doing : Server → Effects × Server) : BenchEntry × Bench :=
  if bench.server.hasStopped then (⟨none, .empty⟩, bench)
  else
    let (effects, server) := doing bench.server
    (⟨none, effects⟩, { bench with server })

/-- Carries out a command, which a server that has stopped refuses. -/
def submit (bench : Bench) (command : Command) : BenchEntry × Bench :=
  if bench.server.hasStopped then (⟨some .closed, .empty⟩, bench)
  else bench.run fun server => server.command command bench.clock

/-- Lets a client send a datagram. -/
def deliver (bench : Bench) (client : Address) (bytes : Bytes) :
    Except BenchFault (BenchEntry × Bench) :=
  match bench.loopback with
  | .down => .error .unreachable
  | .up => .ok (bench.run fun server => server.receive bench.application client bytes bench.clock)

/-- Lets the clock move on, and the server look at its timer. The clock cannot
be moved past its end. -/
def advance (bench : Bench) (span : Span) : Except Halt (BenchEntry × Bench) := do
  let clock ← bench.clock.after span
  return { bench with clock }.run fun server => server.tick bench.application clock

/-- Does one step. -/
def step (bench : Bench) : BenchStep → Except Halt (Except BenchFault (BenchEntry × Bench))
  | .datagram client bytes => .ok (bench.deliver client bytes)
  | .advance span => .ok <$> bench.advance span
  | .command command => .ok (.ok (bench.submit command))
  | .attachRoom client room =>
    let (key, endpoint) := bench.server.endpoint.ensureRoom room
    let server := { bench.server with endpoint }
    .ok (.ok ({ bench with server }.submit (.attachRoom client key)))

end Bench

end SessionLayer
