import SessionLayer.Data.Memory
import SessionLayer.Sequence
import SessionLayer.Time

/-!
# Packets waiting for an acknowledgement

A session remembers the last packets that it sent and wants acknowledged, with
their bytes, so that they can be sent again unchanged. An acknowledged packet
keeps its place in the list until newer ones push it out.
-/

namespace SessionLayer

/-- A sent packet and what became of it. -/
structure PendingPacket where
  sequence : Sequence
  bytes : Bytes
  firstSentAt : Instant
  lastSentAt : Instant
  acked : Bool
  /-- How often the packet was sent again. -/
  resends : Nat
  deriving DecidableEq

/-- What an acknowledgement did. -/
inductive AckOutcome
  /-- The packet is acknowledged now. The round trip is known only for a packet
  that was sent once: otherwise any of its copies may have been meant. -/
  | acked (roundTrip : Option Span)
  /-- The packet was acknowledged before. -/
  | duplicate
  /-- No such packet is remembered. -/
  | unknown
  deriving DecidableEq

namespace PendingPacket

/-- A packet as it is remembered when it is first sent. -/
def fresh (sequence : Sequence) (bytes : Bytes) (now : Instant) : PendingPacket where
  sequence := sequence
  bytes := bytes
  firstSentAt := now
  lastSentAt := now
  acked := false
  resends := 0

/-- Whether the packet is still waiting and was last sent at least `after`
ago. -/
def isOverdue (now : Instant) (after : Span) (packet : PendingPacket) : Bool :=
  !packet.acked && after ≤ now - packet.lastSentAt

/-- The packet after it was sent once more. -/
def resent (now : Instant) (packet : PendingPacket) : PendingPacket :=
  { packet with lastSentAt := now, resends := packet.resends + 1 }

/-- The round trip that an acknowledgement of this packet measures. -/
def roundTrip (now : Instant) (packet : PendingPacket) : Option Span :=
  if packet.resends = 0 then some (now - packet.lastSentAt) else none

end PendingPacket

/-- The packets that a session remembers, oldest first. -/
structure PendingList where
  capacity : Nat
  packets : List PendingPacket
  deriving DecidableEq

namespace PendingList

/-- A list that remembers nothing yet. -/
def empty (capacity : Nat) : PendingList := ⟨capacity, []⟩

/-- The memory that one packet takes, without its bytes. -/
def itemSize : Nat := 64

/-- Makes a list, with the memory that it needs: a new packet comes in before the
oldest goes. -/
def create (capacity : Nat) : Except Halt PendingList := do
  Memory.reserve (capacity + 1) itemSize
  return .empty capacity

/-- Remembers a packet. When the list is full the oldest packet is forgotten,
acknowledged or not, and handed back. -/
def record (list : PendingList) (sequence : Sequence) (bytes : Bytes) (now : Instant) :
    Option PendingPacket × PendingList :=
  let packets := list.packets ++ [.fresh sequence bytes now]
  if list.capacity < packets.length then (packets.head?, { list with packets := packets.tail })
  else (none, { list with packets })

/-- Marks the oldest packet with this number. -/
def acknowledgeIn (sequence : Sequence) (now : Instant) :
    List PendingPacket → AckOutcome × List PendingPacket
  | [] => (.unknown, [])
  | packet :: rest =>
    if packet.sequence = sequence then
      if packet.acked then (.duplicate, packet :: rest)
      else (.acked (packet.roundTrip now), { packet with acked := true } :: rest)
    else
      let (outcome, rest) := acknowledgeIn sequence now rest
      (outcome, packet :: rest)

/-- Takes an acknowledgement. -/
def acknowledge (list : PendingList) (sequence : Sequence) (now : Instant) :
    AckOutcome × PendingList :=
  let (outcome, packets) := acknowledgeIn sequence now list.packets
  (outcome, { list with packets })

/-- The packets to be sent again, oldest first. -/
def overdue (list : PendingList) (now : Instant) (after : Span) : List PendingPacket :=
  list.packets.filter (PendingPacket.isOverdue now after)

/-- The list after its overdue packets were sent again. -/
def resendOverdue (list : PendingList) (now : Instant) (after : Span) : PendingList :=
  { list with
    packets := list.packets.map fun packet =>
      if packet.isOverdue now after then packet.resent now else packet }

/-- Whether a packet with this number is waiting. -/
def isOutstanding (list : PendingList) (sequence : Sequence) : Bool :=
  list.packets.any fun packet => packet.sequence = sequence && !packet.acked

/-- The packets that are waiting, oldest first. -/
def unacked (list : PendingList) : List PendingPacket :=
  list.packets.filter fun packet => !packet.acked

/-- When the first of the waiting packets was first sent. -/
def oldestUnackedAt (list : PendingList) : Option Instant :=
  (list.unacked.map PendingPacket.firstSentAt).min?

/-- Looks for the first number behind `sequence` that no waiting packet has,
trying at most `tries` numbers. -/
def nextFree (list : PendingList) : Nat → Sequence → Option Sequence
  | 0, _ => none
  | tries + 1, sequence =>
    if list.isOutstanding (sequence + 1) then list.nextFree tries (sequence + 1)
    else some (sequence + 1)

/-- The first number behind `sequence` that no waiting packet has. The search
goes round the ring, so it ends only where there is such a number. -/
def freeAfter (list : PendingList) (sequence : Sequence) : Except Halt Sequence :=
  match list.nextFree 65536 sequence with
  | some free => .ok free
  | none => .error .sequencesExhausted

end PendingList

end SessionLayer
