import SessionLayer.Data.Queue
import SessionLayer.Delivery.History
import SessionLayer.Delivery.Pending
import SessionLayer.Delivery.Reorder
import SessionLayer.Flood.Limiter
import SessionLayer.Net.Address
import SessionLayer.Room
import SessionLayer.Session.State

/-!
# Sessions

A session is everything that is known about one peer. It neither sends nor
receives: decoded packets are handed to it, and the datagrams that it wants to
send wait in its outbox.
-/

namespace SessionLayer

/-- What is known about one peer. -/
structure Session where
  client : ClientId
  remote : Address
  state : SessionState
  identity : Option ClientIdentity
  settings : SessionSettings
  /-- The number of the last packet that was given one. -/
  outgoingSequence : Sequence
  pending : PendingList
  history : ReceivedHistory
  reorder : ReorderBuffer Payload
  limiter : RateLimiter
  /-- The last round trip that was measured. -/
  roundTrip : Option Span
  room : Option RoomKey
  outbox : Queue Bytes
  sentDisconnect : Bool
  createdAt : Instant
  lastReceivedAt : Instant
  totalResends : Nat

namespace Session

/-- A session with a peer that has not said anything yet. Its lists get their
memory at once. -/
def create (client : ClientId) (remote : Address) (settings : SessionSettings)
    (flood : FloodSettings) (now : Instant) : Except Halt Session := do
  let pending ← PendingList.create settings.pendingCapacity
  let history ← ReceivedHistory.create settings.receivedHistory
  return {
    client
    remote
    state := .unidentified
    identity := none
    settings
    outgoingSequence := 0
    pending
    history
    reorder := .empty 0 settings.reorderCapacity settings.reorderTimeout
    limiter := .fresh flood
    roundTrip := none
    room := none
    outbox := .empty
    sentDisconnect := false
    createdAt := now
    lastReceivedAt := now
    totalResends := 0 }

/-- Whether the client has said who it is. -/
def isIdentified (session : Session) : Bool := session.identity.isSome

/-- The locale of the client's language. -/
def locale? (session : Session) : Option String :=
  session.identity.bind fun identity => identity.language.locale?

/-- How many packets wait for an acknowledgement. -/
def unackedCount (session : Session) : Nat := session.pending.unacked.length

/-- The room of a session, if it sits in one that exists. -/
def liveRoom? (session : Session) (rooms : RoomTable) : Option RoomKey :=
  session.room.filter rooms.exists?

/-- Puts a session into a room. -/
def setRoom (session : Session) (room : RoomKey) : Session := { session with room := some room }

/-- Takes a session out of its room. -/
def clearRoom (session : Session) : Session := { session with room := none }

/-- A text in the client's locale, with arguments put in. -/
def localize (session : Session) (text : LocalizedText) (usual : String) (args : List String) :
    Option String :=
  text.format session.locale? usual args

/-- Puts a datagram into the outbox. -/
def post (session : Session) (datagram : Bytes) : Session :=
  { session with outbox := session.outbox.push datagram }

/-- Empties the outbox. -/
def takeOutgoing (session : Session) : List Bytes × Session :=
  (session.outbox.toList, { session with outbox := .empty })

/-- Ends a session for good and hands back the room that it was in. -/
def markDisconnected (session : Session) : Option RoomKey × Session :=
  (session.room, { session with state := .disconnected, room := none })

/-- The counters of a session have thirty-two bits, the total has sixty-four. -/
def countersFit (session : Session) : Bool :=
  session.limiter.reliable.count < UInt32.size && session.limiter.unreliable.count < UInt32.size
    && session.pending.packets.all (fun packet => packet.resends < UInt32.size)
    && session.totalResends < UInt64.size

/-- Decides about a datagram of a class before it is decoded. -/
def checkRate (session : Session) (trafficClass : TrafficClass) (now : Instant) :
    Except Halt (RateDecision × Session) :=
  let (decision, limiter) := session.limiter.check trafficClass now
  let session := { session with limiter }
  if session.countersFit then .ok (decision, session) else .error .counterOverflow

end Session

end SessionLayer
