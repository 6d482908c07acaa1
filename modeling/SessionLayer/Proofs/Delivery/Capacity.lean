import SessionLayer.Proofs.Delivery.Expiry

/-!
# How much a reorder buffer holds

An item that is pushed leaves or is held, and nothing else is:
`ReorderBuffer.length_add_size_move`. So a buffer that never holds more than its capacity
(`ReorderBuffer.Sound`) lets go of an item when one more than that would be held, and a gap that
is given up lets go of what lies behind it. Together this says exactly when a push and an expiry
let go of something.
-/

namespace SessionLayer

/-- One number is ahead of another if it is another one, in the half of the ring behind that. -/
theorem Sequence.isAhead_iff {sequence reference : Sequence} :
    isAhead sequence reference = true ↔
      sequence ≠ reference ∧ (distance reference sequence).toNat < 0x8000 := by
  have reached : 0 < (distance reference sequence).toNat ↔ sequence ≠ reference := by
    rw [Nat.pos_iff_ne_zero, Ne, Ne, not_iff_not]
    constructor
    · intro none
      have zero : distance reference sequence = 0 := UInt16.toNat_inj.mp none
      rw [← add_distance reference sequence, zero, UInt16.add_zero]
    · rintro rfl
      rw [distance, UInt16.sub_self]
      rfl
  rw [isAhead, Bool.and_eq_true, decide_eq_true_iff, decide_eq_true_iff, UInt16.lt_iff_toNat_lt,
    UInt16.lt_iff_toNat_lt]
  exact and_congr_left' reached

namespace ReorderBuffer

open Sequence

variable {α : Type} {buffer : ReorderBuffer α} {capacity : Nat} {timeout : Span}
  {sequence : Sequence} {now : Instant}

/-! ## What a move does to the size -/

/-- What leaves and what is held afterwards are what was held and what came. -/
theorem length_add_size_move (waits : buffer.Waits) (next : Move α) :
    (buffer.move next).1.length + (buffer.move next).2.held.size =
      buffer.held.size + (buffer.arriving next).length := by
  obtain ⟨_, leaving, releases⟩ := move_releases waits UInt16.ofNat_toNat next
  have same := releases.kept.length_eq
  rw [List.length_append, List.length_append] at same
  rw [releases.ready, List.length_map]
  exact same

theorem length_arriving_le (buffer : ReorderBuffer α) (next : Move α) :
    (buffer.arriving next).length ≤ 1 := by
  cases next with
  | push sequence item now =>
    rw [arriving]
    split
    · exact Nat.zero_le 1
    · exact Nat.le_refl 1
  | resync => exact Nat.zero_le 1
  | expire now => exact Nat.zero_le 1

/-- A gap that is given up lets go of an item, if one is held. -/
theorem resync_ne_nil (waits : buffer.Waits) (held : buffer.held.get? sequence ≠ none) :
    buffer.resync.1 ≠ [] := by
  have same := length_add_size_move waits .resync
  have fewer := size_resync_lt waits held
  intro nothing
  simp only [move, nothing, arriving, List.length_nil] at same
  omega

/-- An item that is new and ahead would be held, and would be one too many. -/
def Overflows (buffer : ReorderBuffer α) (sequence : Sequence) : Prop :=
  isAhead sequence buffer.next = true ∧ buffer.held.get? sequence = none ∧
    buffer.capacity < buffer.held.size + 1

theorem refuses_eq_false_iff (other : sequence ≠ buffer.next) :
    buffer.refuses sequence = false ↔
      isAhead sequence buffer.next = true ∧ buffer.held.get? sequence = none := by
  simp [refuses, Table.contains, other]

/-- A push lets go of something if its item is expected, or is one too many. -/
theorem push_ne_nil_iff (waits : buffer.Waits) (few : buffer.held.size ≤ buffer.capacity)
    (item : α) :
    (buffer.push sequence item now).1 ≠ [] ↔ sequence = buffer.next ∨ buffer.Overflows sequence := by
  by_cases expected : sequence = buffer.next
  · rw [push, if_pos expected]
    exact iff_of_true (List.cons_ne_nil item _) (.inl expected)
  rw [push, if_neg expected, or_iff_right expected, Overflows]
  cases ahead : isAhead sequence buffer.next with
  | false =>
    exact iff_of_false (fun some => some rfl) fun overflows => Bool.false_ne_true overflows.1
  | true =>
    cases known : buffer.held.get? sequence with
    | some held =>
      have same : buffer.held.contains sequence = true := by rw [Table.contains, known]; rfl
      rw [if_neg (by decide), same, if_pos rfl, if_neg (Nat.not_lt.mpr few)]
      exact iff_of_false (fun some => some rfl)
        fun overflows => Option.some_ne_none held overflows.2.1
    | none =>
      have new : buffer.held.contains sequence = false := by rw [Table.contains, known]; rfl
      rw [if_neg (by decide), new, if_neg Bool.false_ne_true]
      dsimp only
      rw [Table.size_insert_of_none _ known]
      split
      · rename_i full
        have present : (buffer.held.insert sequence ⟨item, now⟩).get? sequence ≠ none := by
          rw [Table.get?_insert_self]
          exact Option.some_ne_none _
        exact iff_of_true (resync_ne_nil (waits.insert expected ahead) present) ⟨rfl, rfl, full⟩
      · rename_i fits
        exact iff_of_false (fun some => some rfl) fun overflows => fits overflows.2.2

/-- An expiry lets go of something if an item is held too long. -/
theorem expire_ne_nil_iff (waits : buffer.Waits) :
    (buffer.expire now).1 ≠ [] ↔ ∃ sequence, buffer.Overdue now sequence := by
  rw [← isStale_iff, expire]
  split
  · rename_i stale
    obtain ⟨sequence, held, was, -⟩ := isStale_iff.mp stale
    have present : buffer.held.get? sequence ≠ none := by
      rw [was]
      exact Option.some_ne_none held
    exact iff_of_true (resync_ne_nil waits present) stale
  · rename_i fresh
    exact iff_of_false (fun some => some rfl) fresh

/-! ## The capacity -/

theorem limits_push (buffer : ReorderBuffer α) (sequence : Sequence) (item : α) (now : Instant) :
    (buffer.push sequence item now).2.capacity = buffer.capacity ∧
      (buffer.push sequence item now).2.timeout = buffer.timeout := by
  rw [push]
  split
  · exact limits_drain _
  split
  · exact ⟨rfl, rfl⟩
  -- whichever items are held now, they may be too many
  generalize (if buffer.held.contains sequence then buffer.held
    else buffer.held.insert sequence ⟨item, now⟩) = held
  dsimp only
  split
  · exact limits_resync _
  · exact ⟨rfl, rfl⟩

theorem limits_move (buffer : ReorderBuffer α) (next : Move α) :
    (buffer.move next).2.capacity = buffer.capacity ∧
      (buffer.move next).2.timeout = buffer.timeout := by
  cases next with
  | push sequence item now => exact limits_push buffer sequence item now
  | resync => exact limits_resync buffer
  | expire now =>
    rw [move, expire]
    split
    · exact limits_resync buffer
    · exact ⟨rfl, rfl⟩

/-- Everything that is held is ahead, and no more than `capacity` items are. -/
structure Sound (capacity : Nat) (timeout : Span) (buffer : ReorderBuffer α) : Prop where
  waits : buffer.Waits
  sized : buffer.capacity = capacity
  patient : buffer.timeout = timeout
  few : buffer.held.size ≤ capacity

theorem sound_empty (next : Sequence) (capacity : Nat) (timeout : Span) :
    (empty next capacity timeout : ReorderBuffer α).Sound capacity timeout where
  waits := waits_empty next capacity timeout
  sized := rfl
  patient := rfl
  few := Nat.zero_le capacity

theorem Sound.restart (sound : buffer.Sound capacity timeout) (next : Sequence) :
    (buffer.restart next).Sound capacity timeout where
  waits := waits_empty next buffer.capacity buffer.timeout
  sized := sound.sized
  patient := sound.patient
  few := Nat.zero_le capacity

/-- If nothing leaves, there is room for what comes. -/
theorem Sound.size_add_arriving_le (sound : buffer.Sound capacity timeout) {next : Move α}
    (nothing : (buffer.move next).1 = []) :
    buffer.held.size + (buffer.arriving next).length ≤ capacity := by
  obtain ⟨waits, rfl, -, few⟩ := sound
  cases next with
  | push sequence item now =>
    have stays := not_or.mp fun leaves => (push_ne_nil_iff waits few item).mpr leaves nothing
    rw [arriving]
    split
    · exact few
    · rename_i taken
      have new := (refuses_eq_false_iff stays.1).mp (Bool.eq_false_iff.mpr taken)
      exact Nat.le_of_not_lt fun full => stays.2 ⟨new.1, new.2, full⟩
  | resync => exact few
  | expire now => exact few

theorem Sound.move (sound : buffer.Sound capacity timeout) (next : Move α) :
    (buffer.move next).2.Sound capacity timeout := by
  obtain ⟨_, _, releases⟩ := move_releases sound.waits UInt16.ofNat_toNat next
  obtain ⟨sized, patient⟩ := limits_move buffer next
  refine ⟨releases.waits, sized.trans sound.sized, patient.trans sound.patient, ?_⟩
  have same := length_add_size_move sound.waits next
  by_cases nothing : (buffer.move next).1 = []
  · have room := sound.size_add_arriving_le nothing
    rw [nothing, List.length_nil] at same
    omega
  · have leaves := List.length_pos_iff.mpr nothing
    have one := length_arriving_le buffer next
    have few := sound.few
    omega

/-! ## Runs -/

/-- What can be done to a buffer: a move, or another start. -/
inductive Act (α : Type)
  | move (next : Move α)
  | restart (next : Sequence)

/-- The buffer after an act. -/
def act (buffer : ReorderBuffer α) : Act α → ReorderBuffer α
  | .move next => (buffer.move next).2
  | .restart next => buffer.restart next

/-- The buffer after one act after the other. -/
def after (buffer : ReorderBuffer α) (acts : List (Act α)) : ReorderBuffer α :=
  acts.foldl act buffer

theorem Sound.after (sound : buffer.Sound capacity timeout) (acts : List (Act α)) :
    (buffer.after acts).Sound capacity timeout := by
  induction acts generalizing buffer with
  | nil => exact sound
  | cons next rest ih =>
    cases next with
    | move next => exact ih (sound.move next)
    | restart next => exact ih (sound.restart next)

/-- Whatever was done to a buffer that was new once, everything that it holds is ahead of the
expected number, and that is no more than its capacity. A push lets go of something exactly if
its item is expected or is one too many, and an expiry exactly if an item is held too long. -/
theorem holds_ahead_and_few {next : Sequence} {acts : List (Act α)}
    (done : (empty next capacity timeout).after acts = buffer) :
    (∀ sequence, buffer.held.get? sequence ≠ none → isAhead sequence buffer.next = true) ∧
      buffer.held.get? buffer.next = none ∧ buffer.held.size ≤ capacity ∧
      (∀ sequence item now, (buffer.push sequence item now).1 ≠ [] ↔
        sequence = buffer.next ∨
          isAhead sequence buffer.next = true ∧ buffer.held.get? sequence = none ∧
            capacity < buffer.held.size + 1) ∧
      ∀ now, (buffer.expire now).1 ≠ [] ↔ ∃ sequence held,
        buffer.held.get? sequence = some held ∧ timeout ≤ now - held.since := by
  obtain ⟨waits, rfl, rfl, few⟩ := done ▸ (sound_empty next capacity timeout).after acts
  refine ⟨fun sequence held => ?_, waits.absent, few, fun sequence item now =>
    push_ne_nil_iff waits few item, fun now => expire_ne_nil_iff waits⟩
  exact isAhead_iff.mpr ⟨fun same => held (same ▸ waits.absent), waits.within sequence held⟩

/-- Two items fill this buffer, behind a gap each. -/
def crowded : ReorderBuffer Unit :=
  (empty 1 2 5000000).after [.move (.push 3 () 0), .move (.push 5 () 0)]

/-- A third item makes it give up the first gap, and so does the end of the time. Another item
with a number that is known does not. -/
theorem holds_ahead_and_few_crowded :
    (∀ sequence, crowded.held.get? sequence ≠ none → isAhead sequence 1 = true) ∧
      crowded.held.size ≤ 2 ∧ (crowded.push 7 () 1).1 ≠ [] ∧ (crowded.expire 5000000).1 ≠ [] ∧
      ¬ (crowded.push 3 () 1).1 ≠ [] := by
  obtain ⟨ahead, -, few, pushes, expires⟩ := holds_ahead_and_few (rfl : _ = crowded)
  refine ⟨ahead, few, (pushes 7 () 1).mpr (.inr ⟨by decide, by decide, by decide⟩),
    (expires 5000000).mpr ⟨3, ⟨(), 0⟩, rfl, by decide⟩, fun leaves => ?_⟩
  rcases (pushes 3 () 1).mp leaves with expected | ⟨-, new, -⟩
  · exact absurd expected (by decide)
  · exact absurd new (by decide)

end ReorderBuffer

end SessionLayer
