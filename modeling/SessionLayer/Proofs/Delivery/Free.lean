import Mathlib.Data.List.Nodup
import SessionLayer.Delivery.Pending

/-!
# Free packet numbers

A session looks for a free number step by step along the ring and passes only numbers that
waiting packets have: `PendingList.Search`. As long as it has not been around the ring, these are
all different. So the search takes at most one step more than packets wait
(`PendingList.Search.steps_le`), the bound on its tries never cuts it off
(`PendingList.freeAfter_eq_ok_iff`), and it fails only where every number is taken
(`PendingList.freeAfter_eq_error_iff`). What it has passed is said by
`PendingList.passed_of_freeAfter`.
-/

namespace SessionLayer.PendingList

variable {list : PendingList} {sequence free : Sequence} {steps : Nat}

/-- The numbers that are not free are those of the waiting packets. -/
theorem isOutstanding_iff :
    list.isOutstanding sequence = true ↔ sequence ∈ list.unacked.map PendingPacket.sequence := by
  simp only [isOutstanding, unacked, List.any_eq_true, Bool.and_eq_true, decide_eq_true_eq,
    List.mem_map, List.mem_filter]
  constructor
  · rintro ⟨packet, present, same, waits⟩
    exact ⟨packet, ⟨present, waits⟩, same⟩
  · rintro ⟨packet, ⟨present, waits⟩, same⟩
    exact ⟨packet, present, same, waits⟩

theorem ahead_succ (sequence : Sequence) (steps : Nat) :
    sequence + 1 + UInt16.ofNat (steps + 1) = sequence + UInt16.ofNat (steps + 1 + 1) := by
  rw [UInt16.add_assoc, ← UInt16.ofNat_one, ← UInt16.ofNat_add, Nat.add_comm 1 (steps + 1)]

/-- A search that starts behind `sequence` ends at `free` after so many steps. -/
inductive Search (list : PendingList) : Sequence → Nat → Sequence → Prop
  | found {sequence : Sequence} :
    list.isOutstanding (sequence + 1) = false → Search list sequence 1 (sequence + 1)
  | passed {sequence free : Sequence} {steps : Nat} :
    list.isOutstanding (sequence + 1) = true → Search list (sequence + 1) steps free →
    Search list sequence (steps + 1) free

/-- It has passed taken numbers up to a free one. -/
theorem Search.passes (search : list.Search sequence steps free) :
    ∃ before, steps = before + 1 ∧ sequence + UInt16.ofNat (before + 1) = free ∧
      list.isOutstanding free = false ∧
      ∀ earlier < before, list.isOutstanding (sequence + UInt16.ofNat (earlier + 1)) = true := by
  induction search with
  | found unused => exact ⟨0, rfl, rfl, unused, fun _ none => nomatch none⟩
  | passed taken _ ih =>
    obtain ⟨before, rfl, reached, unused, passed⟩ := ih
    refine ⟨before + 1, rfl, ?_, unused, ?_⟩
    · rw [← reached, ahead_succ]
    · intro earlier below
      cases earlier with
      | zero => exact taken
      | succ earlier =>
        have later := passed earlier (Nat.lt_of_succ_lt_succ below)
        rwa [ahead_succ] at later

theorem nextFree_eq_some_iff {tries : Nat} :
    list.nextFree tries sequence = some free ↔ ∃ steps ≤ tries, list.Search sequence steps free := by
  induction tries generalizing sequence with
  | zero =>
    refine iff_of_false nofun ?_
    rintro ⟨steps, none, search⟩
    obtain ⟨before, rfl, -⟩ := search.passes
    exact Nat.not_succ_le_zero before none
  | succ tries ih =>
    rw [nextFree]
    cases taken : list.isOutstanding (sequence + 1) with
    | false =>
      rw [if_neg Bool.false_ne_true, Option.some.injEq]
      constructor
      · rintro rfl
        exact ⟨1, Nat.le_add_left .., .found taken⟩
      · rintro ⟨steps, within, search⟩
        cases search with
        | found _ => rfl
        | passed other _ => rw [taken] at other; cases other
    | true =>
      rw [if_pos rfl, ih]
      constructor
      · rintro ⟨steps, within, search⟩
        exact ⟨steps + 1, Nat.succ_le_succ within, .passed taken search⟩
      · rintro ⟨steps, within, search⟩
        cases search with
        | found other => rw [taken] at other; cases other
        | passed _ rest => exact ⟨_, Nat.le_of_succ_le_succ within, rest⟩

/-- A search that fails has passed a taken number in each of its steps. -/
theorem taken_of_nextFree {tries : Nat} (failed : list.nextFree tries sequence = none) :
    ∀ steps < tries, list.isOutstanding (sequence + UInt16.ofNat (steps + 1)) = true := by
  induction tries generalizing sequence with
  | zero => exact fun steps below => absurd below (Nat.not_lt_zero steps)
  | succ tries ih =>
    rw [nextFree] at failed
    split at failed
    · rename_i taken
      intro steps below
      cases steps with
      | zero => exact taken
      | succ steps =>
        have later := ih failed steps (Nat.lt_of_succ_lt_succ below)
        rwa [ahead_succ] at later
    · cases failed

/-- So many steps behind a number, the numbers on the way are all different. -/
theorem nodup_ahead (sequence : Sequence) {tries : Nat} (round : tries ≤ 65536) :
    ((List.range tries).map fun steps => sequence + UInt16.ofNat (steps + 1)).Nodup := by
  refine List.Nodup.map_on ?_ List.nodup_range
  intro first before second after same
  rw [List.mem_range] at before after
  have numbers := congrArg UInt16.toNat ((UInt16.add_right_inj sequence).mp same)
  rw [UInt16.toNat_ofNat', UInt16.toNat_ofNat'] at numbers
  omega

/-- As many numbers in a row as are taken, so many packets wait. -/
theorem le_length_unacked (round : steps ≤ 65536)
    (taken : ∀ earlier < steps,
      list.isOutstanding (sequence + UInt16.ofNat (earlier + 1)) = true) :
    steps ≤ list.unacked.length := by
  have among : ((List.range steps).map fun earlier => sequence + UInt16.ofNat (earlier + 1)) ⊆
      list.unacked.map PendingPacket.sequence := by
    intro number passed
    obtain ⟨earlier, below, rfl⟩ := List.mem_map.mp passed
    exact isOutstanding_iff.mp (taken earlier (List.mem_range.mp below))
  have many := (nodup_ahead sequence round).length_le_of_subset among
  rwa [List.length_map, List.length_map, List.length_range] at many

/-- With fewer waiting packets than tries the search finds a number. -/
theorem exists_nextFree (list : PendingList) (sequence : Sequence) {tries : Nat}
    (few : list.unacked.length < tries) (round : tries ≤ 65536) :
    ∃ free, list.nextFree tries sequence = some free := by
  cases failed : list.nextFree tries sequence with
  | some free => exact ⟨free, rfl⟩
  | none => exact absurd few (Nat.not_lt.mpr (le_length_unacked round (taken_of_nextFree failed)))

/-- While fewer packets wait than there are numbers, one is free. -/
theorem exists_freeAfter (list : PendingList) (sequence : Sequence)
    (few : list.unacked.length < 65536) : ∃ free, list.freeAfter sequence = .ok free := by
  obtain ⟨free, found⟩ := list.exists_nextFree sequence few (Nat.le_refl _)
  exact ⟨free, by rw [freeAfter, found]⟩

/-- So many steps behind a number lies every number. -/
theorem exists_ahead (sequence number : Sequence) :
    ∃ steps < 65536, sequence + UInt16.ofNat (steps + 1) = number := by
  refine ⟨(number - sequence - 1).toNat, UInt16.toNat_lt _, ?_⟩
  rw [UInt16.ofNat_add, UInt16.ofNat_toNat, UInt16.ofNat_one, UInt16.sub_add_cancel,
    UInt16.add_comm, UInt16.sub_add_cancel]

/-- It ends before it comes around the ring a second time. -/
theorem Search.steps_le_ring (search : list.Search sequence steps free) : steps ≤ 65536 := by
  obtain ⟨before, rfl, -, unused, passed⟩ := search.passes
  obtain ⟨ahead, within, reached⟩ := exists_ahead sequence free
  refine Nat.succ_le_of_lt (Nat.lt_of_not_le fun around => ?_)
  have taken := passed ahead (Nat.lt_of_lt_of_le within around)
  rw [reached, unused] at taken
  cases taken

/-- It takes at most one step more than packets wait. -/
theorem Search.steps_le (search : list.Search sequence steps free) :
    steps ≤ list.unacked.length + 1 := by
  have ring := search.steps_le_ring
  obtain ⟨before, rfl, -, -, passed⟩ := search.passes
  exact Nat.succ_le_succ (le_length_unacked (Nat.le_of_succ_le ring) passed)

/-- The bound on the tries does not cut the search off. -/
theorem freeAfter_eq_ok_iff :
    list.freeAfter sequence = .ok free ↔ ∃ steps, list.Search sequence steps free := by
  have found : list.freeAfter sequence = .ok free ↔ list.nextFree 65536 sequence = some free := by
    rw [freeAfter]
    split
    · rename_i other some
      rw [some, Except.ok.injEq, Option.some.injEq]
    · rename_i none
      rw [none]
      exact iff_of_false nofun nofun
  rw [found, nextFree_eq_some_iff]
  exact ⟨fun ⟨steps, _, search⟩ => ⟨steps, search⟩,
    fun ⟨steps, search⟩ => ⟨steps, search.steps_le_ring, search⟩⟩

theorem nextFree_of_taken (taken : ∀ number, list.isOutstanding number = true) (tries : Nat)
    (sequence : Sequence) : list.nextFree tries sequence = none := by
  induction tries generalizing sequence with
  | zero => rfl
  | succ tries ih => rw [nextFree, if_pos (taken _), ih]

/-- The search fails exactly where every number is taken. -/
theorem freeAfter_eq_error_iff {halt : Halt} :
    list.freeAfter sequence = .error halt ↔
      halt = .sequencesExhausted ∧ ∀ number, list.isOutstanding number = true := by
  rw [freeAfter]
  cases found : list.nextFree 65536 sequence with
  | none =>
    have taken : ∀ number, list.isOutstanding number = true := by
      intro number
      obtain ⟨steps, below, rfl⟩ := exists_ahead sequence number
      exact taken_of_nextFree found steps below
    simp only [Except.error.injEq, taken, implies_true, and_true]
    exact eq_comm
  | some free =>
    simp only [reduceCtorEq, false_iff, not_and]
    intro _ taken
    rw [nextFree_of_taken taken] at found
    cases found

/-- The number behind is taken if it is free. -/
theorem freeAfter_of_free (unused : list.isOutstanding (sequence + 1) = false) :
    list.freeAfter sequence = .ok (sequence + 1) := by
  have found : list.nextFree (65535 + 1) sequence = some (sequence + 1) := by
    rw [nextFree, unused, if_neg Bool.false_ne_true]
  rw [freeAfter, found]

/-- A search that succeeds has passed taken numbers up to the free one. -/
theorem passed_of_freeAfter (found : list.freeAfter sequence = .ok free) :
    ∃ steps < 65536, sequence + UInt16.ofNat (steps + 1) = free ∧
      list.isOutstanding free = false ∧
      ∀ earlier < steps, list.isOutstanding (sequence + UInt16.ofNat (earlier + 1)) = true := by
  obtain ⟨steps, search⟩ := freeAfter_eq_ok_iff.mp found
  have ring := search.steps_le_ring
  obtain ⟨before, rfl, passed⟩ := search.passes
  exact ⟨before, ring, passed⟩

theorem not_outstanding_of_freeAfter (found : list.freeAfter sequence = .ok free) :
    list.isOutstanding free = false := by
  obtain ⟨_, _, _, unused, _⟩ := passed_of_freeAfter found
  exact unused

/-- The search comes back to where it started exactly if all other numbers are taken. -/
theorem freeAfter_eq_self_iff (found : list.freeAfter sequence = .ok free) :
    free = sequence ↔ ∀ other ≠ sequence, list.isOutstanding other = true := by
  obtain ⟨steps, below, reached, unused, passed⟩ := passed_of_freeAfter found
  constructor
  · rintro rfl other apart
    obtain ⟨ahead, within, rfl⟩ := exists_ahead free other
    have around {count : Nat} (here : free + UInt16.ofNat count = free) : count % 65536 = 0 := by
      have numbers := congrArg UInt16.toNat here
      rw [UInt16.toNat_add, UInt16.toNat_ofNat'] at numbers
      have := free.toNat_lt
      omega
    have whole := around reached
    refine passed ahead (Nat.lt_of_le_of_ne (by omega) fun last => apart ?_)
    rw [last]
    exact reached
  · intro taken
    refine Classical.byContradiction fun apart => ?_
    rw [taken free apart] at unused
    cases unused

theorem length_unacked_le (list : PendingList) : list.unacked.length ≤ list.packets.length :=
  List.length_filter_le _ _

end SessionLayer.PendingList
