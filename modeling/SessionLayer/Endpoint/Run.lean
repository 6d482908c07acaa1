import SessionLayer.Endpoint.Command
import SessionLayer.Endpoint.Datagram
import SessionLayer.Endpoint.Sweep

/-!
# Runs of an endpoint

Everything that can be done to an endpoint is an `Operation`, so that a history
is a list of them. `Endpoint.apply` does one operation, `Endpoint.run` does one
after the other.
-/

namespace SessionLayer

/-- Something that is done to an endpoint. -/
inductive Operation
  | datagram (remote : Address) (bytes : Bytes) (now : Instant)
  | send (client : ClientId) (payload : Payload) (reliable : Bool) (now : Instant)
  | disconnect (client : ClientId) (farewell : Farewell)
  | disconnectLocalized (client : ClientId) (reason : DisconnectReason) (text : LocalizedText)
      (args : List String)
  | attachRoom (client : ClientId) (room : RoomKey)
  | detachRoom (client : ClientId)
  | ban (host : Host) (duration : Span) (now : Instant)
  | unban (host : Host)
  | sweep (now : Instant)
  | shutdown
  | ensureRoom (name : String)
  | dropRoom (name : String)
  | drain

/-- What an operation answers. -/
inductive Answer
  | done
  /-- The number of a reliable payload; none for an unreliable one. -/
  | sent (sequence : Option Sequence)
  | refused (fault : SessionFault)
  | flag (value : Bool)
  | room (key : RoomKey)
  | drained (datagrams : List (Address × Bytes))

/-- What came of an operation. -/
structure Outcome where
  answer : Answer
  report : Report

namespace Outcome

/-- An answer, and nobody told anything. -/
def quiet (answer : Answer) : Outcome := ⟨answer, .empty⟩

/-- A report, and nothing to answer. -/
def ofReport (report : Report) : Outcome := ⟨.done, report⟩

/-- A report, or the fault for which there is none. -/
def ofResult : Except SessionFault Report → Outcome
  | .ok report => ofReport report
  | .error fault => quiet (.refused fault)

/-- Success without an answer, or the fault. -/
def ofUnit : Except SessionFault Unit → Outcome
  | .ok () => quiet .done
  | .error fault => quiet (.refused fault)

/-- The number of what was sent, or the fault. -/
def ofSent : Except SessionFault (Option Sequence) → Outcome
  | .ok sequence => quiet (.sent sequence)
  | .error fault => quiet (.refused fault)

end Outcome

namespace Endpoint

/-- Does one operation. -/
def apply (endpoint : Endpoint) : Operation → Except Halt (Outcome × Endpoint)
  | .datagram remote bytes now => do
    let (report, endpoint) ← endpoint.handleDatagram remote bytes now
    return (.ofReport report, endpoint)
  | .send client payload reliable now => do
    let (answer, endpoint) ← endpoint.send client payload reliable now
    return (.ofSent answer, endpoint)
  | .disconnect client farewell =>
    let (result, endpoint) := endpoint.disconnect client farewell
    .ok (.ofResult result, endpoint)
  | .disconnectLocalized client reason text args =>
    let (result, endpoint) := endpoint.disconnectLocalized client reason text args
    .ok (.ofResult result, endpoint)
  | .attachRoom client room =>
    let (result, endpoint) := endpoint.attachRoom client room
    .ok (.ofUnit result, endpoint)
  | .detachRoom client =>
    let (result, endpoint) := endpoint.detachRoom client
    .ok (.ofUnit result, endpoint)
  | .ban host duration now => do
    let (report, endpoint) ← endpoint.ban host duration now
    return (.ofReport report, endpoint)
  | .unban host =>
    let (lifted, endpoint) := endpoint.unban host
    .ok (.quiet (.flag lifted), endpoint)
  | .sweep now => do
    let (report, endpoint) ← endpoint.sweep now
    return (.ofReport report, endpoint)
  | .shutdown =>
    let (report, endpoint) := endpoint.shutdown
    .ok (.ofReport report, endpoint)
  | .ensureRoom name =>
    let (key, endpoint) := endpoint.ensureRoom name
    .ok (.quiet (.room key), endpoint)
  | .dropRoom name =>
    let (existed, endpoint) := endpoint.dropRoom name
    .ok (.quiet (.flag existed), endpoint)
  | .drain =>
    let (datagrams, endpoint) := endpoint.drainOutgoing
    .ok (.quiet (.drained datagrams), endpoint)

/-- Does one operation after the other, and gathers what came of each. -/
def run (endpoint : Endpoint) : List Operation → Except Halt (List Outcome × Endpoint)
  | [] => .ok ([], endpoint)
  | operation :: rest => do
    let (outcome, endpoint) ← endpoint.apply operation
    let (outcomes, endpoint) ← endpoint.run rest
    return (outcome :: outcomes, endpoint)

end Endpoint

end SessionLayer
