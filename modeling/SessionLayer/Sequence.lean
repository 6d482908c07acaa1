import SessionLayer.Packet.Basic

/-!
# The ring of packet numbers

Packet numbers have sixteen bits and go round. Of two numbers, the one that is
reached in fewer than half the steps of the ring is ahead of the other.
-/

namespace SessionLayer.Sequence

/-- How many steps lead from one number up to another. -/
def distance (start finish : Sequence) : UInt16 := finish - start

/-- Whether `sequence` lies ahead of `reference`: at least one step and less than
half the ring away. -/
def isAhead (sequence reference : Sequence) : Bool :=
  let steps := distance reference sequence
  0 < steps && steps < 0x8000

end SessionLayer.Sequence
