import SessionLayer.Session.Outgoing

/-!
# Looking after a session

From time to time every session is looked after: packets that wait too long go
out again, an identified peer is pinged, a gap that stays open too long is given
up, and a peer that has fallen silent is noticed.
-/

namespace SessionLayer

/-- Whether a peer is there. -/
inductive Health
  | alive
  /-- The client has said who it is and acknowledges nothing any more. -/
  | unresponsive
  /-- The client never said who it is and is silent. -/
  | idle
  deriving DecidableEq

/-- The name of a verdict. -/
def Health.name : Health → String
  | .alive => "Alive"
  | .unresponsive => "Unresponsive"
  | .idle => "Idle"

/-- What came of looking after a session. -/
structure Upkeep where
  health : Health
  /-- Payloads that waited for a gap which is given up. -/
  released : List Payload
  /-- How many packets went out again. -/
  resent : Nat

namespace Upkeep

/-- A verdict, and nothing done. -/
def only (health : Health) : Upkeep := ⟨health, [], 0⟩

end Upkeep

namespace Session

/-- Whether the peer has fallen silent: every place in the list of pending
packets waits, and the first of them for too long. -/
def isUnresponsive (session : Session) (now : Instant) : Bool :=
  session.pending.capacity ≤ session.unackedCount
    && session.pending.oldestUnackedAt.any fun sent =>
      session.settings.unresponsiveAfter < now - sent

/-- Whether a client that never said who it is has been silent for too long. -/
def isIdle (session : Session) (now : Instant) : Bool :=
  session.settings.unresponsiveAfter < now - session.lastReceivedAt

/-- Sends the overdue packets again, and says how many. -/
def resendOverdue (session : Session) (now : Instant) : Nat × Session :=
  let after := session.settings.retransmitAfter
  let overdue := session.pending.overdue now after
  (overdue.length,
    { session with
      pending := session.pending.resendOverdue now after
      outbox := session.outbox.append (overdue.map PendingPacket.bytes)
      totalResends := session.totalResends + overdue.length })

/-- Gives up a gap that is open for too long, where the order matters. -/
def expireGaps (session : Session) (now : Instant) : List Payload × Session :=
  if session.settings.messageOrdering then
    let (released, reorder) := session.reorder.expire now
    (released, { session with reorder })
  else ([], session)

/-- Looks after a session whose peer is there. -/
def keepUp (session : Session) (now : Instant) : Except Halt (Upkeep × Session) := do
  let (resent, session) := session.resendOverdue now
  if !session.countersFit then throw .counterOverflow
  let (_, session) ← session.sendPing now
  let (released, session) := session.expireGaps now
  return (⟨.alive, released, resent⟩, session)

/-- Looks after a session. Nothing is done to one that is over, or whose peer
has fallen silent. -/
def maintain (session : Session) (now : Instant) : Except Halt (Upkeep × Session) :=
  if !session.state.isOpen then .ok (.only .alive, session)
  else if !session.isIdentified then
    .ok (.only (if session.isIdle now then .idle else .alive), session)
  else if session.isUnresponsive now then .ok (.only .unresponsive, session)
  else session.keepUp now

end Session

end SessionLayer
