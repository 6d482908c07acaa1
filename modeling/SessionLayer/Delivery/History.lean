import SessionLayer.Data.Memory
import SessionLayer.Sequence

/-!
# Numbers that were received

A session remembers the last packet numbers that it took from its peer. A packet
whose number is remembered is a repeat.
-/

namespace SessionLayer

/-- The numbers that were accepted last, oldest first. -/
structure ReceivedHistory where
  capacity : Nat
  recent : List Sequence
  deriving DecidableEq

namespace ReceivedHistory

/-- A history without numbers. -/
def empty (capacity : Nat) : ReceivedHistory := ⟨capacity, []⟩

/-- The memory that one number takes. -/
def itemSize : Nat := 2

/-- Makes a history, with the memory that it needs: a new number comes in before
the oldest goes. -/
def create (capacity : Nat) : Except Halt ReceivedHistory := do
  Memory.reserve (capacity + 1) itemSize
  return .empty capacity

/-- Whether a number is remembered. -/
def contains (history : ReceivedHistory) (sequence : Sequence) : Bool :=
  history.recent.contains sequence

/-- Accepts a number unless it is remembered, and says whether it did. The
oldest numbers make room. -/
def accept (history : ReceivedHistory) (sequence : Sequence) : Bool × ReceivedHistory :=
  if history.contains sequence then (false, history)
  else
    let recent := history.recent ++ [sequence]
    (true, { history with recent := recent.drop (recent.length - history.capacity) })

end ReceivedHistory

end SessionLayer
