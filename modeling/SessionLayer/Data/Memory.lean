import SessionLayer.Time

/-!
# Memory

Lists and buffers may get the memory for all that they ever keep when they are
made. Memory is finite: its bytes are counted in sixty-three bits.
-/

namespace SessionLayer.Memory

/-- The number of bytes that memory does not reach. -/
def bound : Nat := UInt64.size / 2

/-- Asks for memory for so many items of a size. -/
def reserve (items size : Nat) : Except Halt Unit :=
  if items * size < bound then .ok () else .error .capacityOverflow

end SessionLayer.Memory
