import SessionLayer.Delivery.History

/-!
# Histories of numbers in a row

When every number that comes is the one after the last, what a history remembers is the
`Sequence.trail` of the next number. As long as the history is shorter than the ring, the
next number is not on the trail and is accepted as new.
-/

namespace SessionLayer

namespace Sequence

/-- So many numbers before `next`, oldest first. -/
def trail (next : Sequence) : Nat → List Sequence
  | 0 => []
  | count + 1 => trail (next - 1) count ++ [next - 1]

@[simp] theorem length_trail (next : Sequence) (count : Nat) :
    (trail next count).length = count := by
  induction count generalizing next with
  | zero => rfl
  | succ count ih => rw [trail, List.length_append, ih, List.length_singleton]

theorem trail_succ (next : Sequence) (count : Nat) :
    trail (next + 1) (count + 1) = trail next count ++ [next] := by
  rw [trail, UInt16.add_sub_cancel]

/-- Without its oldest numbers a trail is shorter. -/
theorem drop_trail (next : Sequence) (count dropped : Nat) :
    (trail next count).drop dropped = trail next (count - dropped) := by
  induction count generalizing next with
  | zero => rw [Nat.zero_sub, trail, List.drop_nil]
  | succ count ih =>
    rw [trail, List.drop_append, ih, length_trail]
    by_cases all : dropped ≤ count
    · rw [Nat.sub_eq_zero_of_le all, Nat.succ_sub all, trail, List.drop_zero]
    · have none : count + 1 - dropped = 0 := by omega
      have last : 1 ≤ dropped - count := by omega
      rw [none, Nat.sub_eq_zero_of_le (by omega), trail, trail, List.drop_of_length_le (by simpa)]
      rfl

/-- Every number on the trail lies some steps behind. -/
theorem exists_of_mem_trail {next sequence : Sequence} {count : Nat}
    (on : sequence ∈ trail next count) :
    ∃ back, 0 < back ∧ back ≤ count ∧ sequence + UInt16.ofNat back = next := by
  induction count generalizing next with
  | zero => cases on
  | succ count ih =>
    rcases List.mem_append.mp on with earlier | last
    · obtain ⟨back, -, within, reached⟩ := ih earlier
      refine ⟨back + 1, Nat.succ_pos back, Nat.succ_le_succ within, ?_⟩
      rw [UInt16.ofNat_add, ← UInt16.add_assoc, reached]
      exact UInt16.sub_add_cancel next 1
    · refine ⟨1, Nat.one_pos, Nat.succ_pos count, ?_⟩
      rw [List.mem_singleton.mp last]
      exact UInt16.sub_add_cancel next 1

/-- So many steps lead around the ring. -/
theorem ofNat_eq_zero {steps : Nat} : UInt16.ofNat steps = 0 ↔ steps % 65536 = 0 := by
  rw [← UInt16.toNat_inj, UInt16.toNat_ofNat']
  rfl

/-- No number is on its own trail, as long as the trail does not go around the ring. -/
theorem notMem_trail (next : Sequence) {count : Nat} (short : count < 65536) :
    next ∉ trail next count := by
  intro on
  obtain ⟨back, positive, within, around⟩ := exists_of_mem_trail on
  have full : UInt16.ofNat back = 0 := by
    rw [← UInt16.add_right_inj next, around, UInt16.add_zero]
  have whole := ofNat_eq_zero.mp full
  omega

end Sequence

namespace ReceivedHistory

open Sequence

/-- The history remembers numbers in a row, the last of them just before `next`. -/
def Trails (history : ReceivedHistory) (next : Sequence) : Prop :=
  ∃ count ≤ history.capacity, history.recent = trail next count

theorem trails_empty (capacity : Nat) (next : Sequence) : (empty capacity).Trails next :=
  ⟨0, Nat.zero_le _, rfl⟩

/-- The next number is new, and the history goes on with the one after it. -/
theorem Trails.accept {history : ReceivedHistory} {next : Sequence}
    (trails : history.Trails next) (short : history.capacity < 65536) :
    (history.accept next).1 = true ∧ (history.accept next).2.Trails (next + 1) ∧
      (history.accept next).2.capacity = history.capacity := by
  obtain ⟨count, within, recent⟩ := trails
  have new : history.contains next = false := by
    rw [contains, recent, List.contains_eq_mem, decide_eq_false_iff_not]
    exact notMem_trail next (Nat.lt_of_le_of_lt within short)
  rw [ReceivedHistory.accept, if_neg (by simp [new])]
  refine ⟨rfl, ⟨count + 1 - (count + 1 - history.capacity), ?_, ?_⟩, rfl⟩
  · show _ ≤ history.capacity
    omega
  · show (history.recent ++ [next]).drop _ = _
    rw [recent, ← trail_succ, length_trail, drop_trail]

end ReceivedHistory

end SessionLayer
