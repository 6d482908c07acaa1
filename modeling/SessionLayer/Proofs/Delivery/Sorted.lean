import SessionLayer.Proofs.Delivery.Expiry

/-!
# Items that come in any order

Where the numbers of a stretch of the ring arrive in any order and any number of times, and the
buffer has room for all of them but one, no gap is ever given up: what has left is the front of
the stretch, and what is held is all else that has come, each number with the item that came
with it first (`ReorderBuffer.Sorting`). So when every number has come, all items have left in
the order of their numbers, and nothing is held (`ReorderBuffer.sorts_arrivals`).
-/

namespace SessionLayer

namespace Sequence

/-- Places that are less than one turn of the ring apart stand for different numbers. -/
theorem add_ofNat_inj {start : Sequence} {first second : Nat} (firstShort : first < 65536)
    (secondShort : second < 65536) :
    start + UInt16.ofNat first = start + UInt16.ofNat second ↔ first = second := by
  refine ⟨fun same => ?_, fun same => same ▸ rfl⟩
  have ways := congrArg (fun finish => (distance start finish).toNat) same
  simpa only [toNat_distance_self_add start firstShort,
    toNat_distance_self_add start secondShort] using ways

theorem add_ofNat_succ (start : Sequence) (steps : Nat) :
    start + UInt16.ofNat (steps + 1) = start + UInt16.ofNat steps + 1 := by
  rw [UInt16.ofNat_add, ← UInt16.add_assoc]
  rfl

theorem isAhead_add_ofNat_iff {start : Sequence} {reference steps : Nat}
    (referenceHalf : reference ≤ 0x8000) (half : steps < 0x8000) :
    isAhead (start + UInt16.ofNat steps) (start + UInt16.ofNat reference) = true ↔
      reference < steps := by
  have way : (distance (start + UInt16.ofNat reference) (start + UInt16.ofNat steps)).toNat =
      if reference ≤ steps then steps - reference else 65536 + steps - reference := by
    have := start.toNat_lt
    simp only [toNat_distance, UInt16.toNat_add, UInt16.toNat_ofNat']
    split <;> omega
  rw [isAhead, Bool.and_eq_true, decide_eq_true_iff, decide_eq_true_iff, UInt16.lt_iff_toNat_lt,
    UInt16.lt_iff_toNat_lt, way]
  change 0 < _ ∧ _ < 32768 ↔ _
  split <;> omega

end Sequence

namespace ReorderBuffer

open Sequence

variable {α : Type}

/-- An item that comes. -/
structure Arrival (α : Type) where
  sequence : Sequence
  item : α
  now : Instant

namespace Arrival

/-- The push that an arrival is. -/
def move (arrival : Arrival α) : Move α := .push arrival.sequence arrival.item arrival.now

/-- What is held of an arrival. -/
def heldItem (arrival : Arrival α) : HeldItem α := ⟨arrival.item, arrival.now⟩

end Arrival

/-- The first of these arrivals that has a number. -/
def first? (arrivals : List (Arrival α)) (sequence : Sequence) : Option (Arrival α) :=
  arrivals.find? (·.sequence = sequence)

/-- The items with the numbers from `start` on, `count` of them, that came first with them. -/
def firstItems (arrivals : List (Arrival α)) (start : Sequence) (count : Nat) : List (Option α) :=
  (List.range count).map fun steps =>
    (first? arrivals (start + UInt16.ofNat steps)).map Arrival.item

/-- The `count` numbers from `start` on are being sorted. The items with the first `gone` of them
have left, and of the others those are held that have come. -/
structure Sorting (start : Sequence) (count : Nat) (arrivals : List (Arrival α)) (gone : Nat)
    (ready : List α) (buffer : ReorderBuffer α) : Prop where
  room : count - 1 ≤ buffer.capacity
  within : gone ≤ count
  ready : ready.map some = firstItems arrivals start gone
  next : buffer.next = start + UInt16.ofNat gone
  held : ∀ steps, gone ≤ steps → steps < count → buffer.held.get? (start + UInt16.ofNat steps) =
    (first? arrivals (start + UInt16.ofNat steps)).map Arrival.heldItem
  only : ∀ sequence, buffer.held.get? sequence ≠ none →
    ∃ steps, gone ≤ steps ∧ steps < count ∧ sequence = start + UInt16.ofNat steps

variable {start : Sequence} {count gone : Nat} {arrivals : List (Arrival α)}
  {arrival : Arrival α} {ready : List α} {buffer : ReorderBuffer α}

theorem sorting_empty (start : Sequence) {count capacity : Nat} (room : count - 1 ≤ capacity)
    (timeout : Span) :
    Sorting start count ([] : List (Arrival α)) 0 [] (empty start capacity timeout) where
  room := room
  within := Nat.zero_le count
  ready := rfl
  next := (UInt16.add_zero start).symm
  held _ _ _ := rfl
  only _ held := absurd (Table.get?_empty _) held

/-! ## One arrival more -/

theorem first?_concat (arrivals : List (Arrival α)) (arrival : Arrival α) (sequence : Sequence) :
    first? (arrivals ++ [arrival]) sequence =
      (first? arrivals sequence).or
        (if arrival.sequence = sequence then some arrival else none) := by
  rw [first?, List.find?_append, List.find?_singleton]
  simp only [decide_eq_true_eq]
  rfl

theorem first?_concat_of_ne {sequence : Sequence} (other : arrival.sequence ≠ sequence) :
    first? (arrivals ++ [arrival]) sequence = first? arrivals sequence := by
  rw [first?_concat, if_neg other, Option.or_none]

theorem first?_concat_of_none (unseen : first? arrivals arrival.sequence = none) :
    first? (arrivals ++ [arrival]) arrival.sequence = some arrival := by
  rw [first?_concat, unseen, if_pos rfl, Option.none_or]

/-- A number that has come is not first any more. -/
theorem first?_concat_of_seen (seen : first? arrivals arrival.sequence ≠ none)
    (sequence : Sequence) : first? (arrivals ++ [arrival]) sequence = first? arrivals sequence := by
  by_cases same : arrival.sequence = sequence
  · obtain ⟨earlier, found⟩ := Option.ne_none_iff_exists'.mp (same ▸ seen)
    rw [first?_concat, found, Option.some_or]
  · exact first?_concat_of_ne same

/-- What comes with another number changes none of the first items. -/
theorem firstItems_concat_of_ne (other : ∀ steps < count,
    arrival.sequence ≠ start + UInt16.ofNat steps) :
    firstItems (arrivals ++ [arrival]) start count = firstItems arrivals start count := by
  refine List.map_congr_left fun steps inside => ?_
  rw [first?_concat_of_ne (other steps (List.mem_range.mp inside))]

/-- Each item that has left came with its number. -/
theorem Sorting.seen_of_lt (sorting : Sorting start count arrivals gone ready buffer) {steps : Nat}
    (left : steps < gone) : first? arrivals (start + UInt16.ofNat steps) ≠ none := by
  intro unseen
  have none : (Option.none : Option α) ∈ firstItems arrivals start gone :=
    List.mem_map.mpr ⟨steps, List.mem_range.mpr left, by rw [unseen]; rfl⟩
  rw [← sorting.ready] at none
  simp at none

/-- A repeat changes nothing. -/
theorem Sorting.repeated (sorting : Sorting start count arrivals gone ready buffer)
    (seen : first? arrivals arrival.sequence ≠ none) :
    Sorting start count (arrivals ++ [arrival]) gone ready buffer where
  room := sorting.room
  within := sorting.within
  ready := by
    rw [sorting.ready, firstItems, firstItems]
    simp only [first?_concat_of_seen seen]
  next := sorting.next
  held steps ahead inside := by
    rw [first?_concat_of_seen seen]
    exact sorting.held steps ahead inside
  only := sorting.only

/-! ## What leaves -/

theorem firstItems_succ (arrivals : List (Arrival α)) (start : Sequence) (count : Nat) :
    firstItems arrivals start (count + 1) = firstItems arrivals start count ++
      [(first? arrivals (start + UInt16.ofNat count)).map Arrival.item] := by
  rw [firstItems, List.range_succ, List.map_append, List.map_singleton]
  rfl

/-- If the expected item is held, it came first with its number. -/
theorem Sorting.expected {held : HeldItem α} (half : count ≤ 0x8000)
    (sorting : Sorting start count arrivals gone ready buffer)
    (present : buffer.held.get? buffer.next = some held) :
    gone < count ∧
      (first? arrivals (start + UInt16.ofNat gone)).map Arrival.heldItem = some held := by
  obtain ⟨steps, -, inside, same⟩ := sorting.only buffer.next (by simp [present])
  have few := sorting.within
  rw [sorting.next, add_ofNat_inj (by omega) (by omega)] at same
  subst same
  rw [← sorting.held gone (Nat.le_refl gone) inside, ← sorting.next, present]
  exact ⟨inside, rfl⟩

/-- The expected item leaves if it is held. -/
theorem Sorting.leave {held : HeldItem α} (half : count ≤ 0x8000)
    (sorting : Sorting start count arrivals gone ready buffer)
    (present : buffer.held.get? buffer.next = some held) :
    Sorting start count arrivals (gone + 1) (ready ++ [held.item])
      { buffer with next := buffer.next + 1, held := buffer.held.erase buffer.next } := by
  obtain ⟨inside, came⟩ := sorting.expected half present
  obtain ⟨first, found, rfl⟩ := Option.map_eq_some_iff.mp came
  constructor
  · exact sorting.room
  · exact inside
  · rw [firstItems_succ, found, List.map_append, sorting.ready]
    rfl
  · rw [add_ofNat_succ, ← sorting.next]
  · intro steps ahead short
    have other : start + UInt16.ofNat steps ≠ buffer.next := by
      rw [sorting.next, Ne, add_ofNat_inj (by omega) (by omega)]
      omega
    rw [Table.get?_erase_of_ne _ other]
    exact sorting.held steps (Nat.le_of_succ_le ahead) short
  · intro sequence stays
    have other : sequence ≠ buffer.next := fun same =>
      stays (same ▸ Table.get?_erase_self ..)
    rw [Table.get?_erase_of_ne _ other] at stays
    obtain ⟨steps, ahead, short, rfl⟩ := sorting.only sequence stays
    have apart : steps ≠ gone := fun same => other (same ▸ sorting.next.symm)
    exact ⟨steps, by omega, short, rfl⟩

/-- Items leave as long as the expected one is held. -/
theorem Sorting.drain (half : count ≤ 0x8000)
    (sorting : Sorting start count arrivals gone ready buffer) :
    ∃ further, Sorting start count arrivals further (ready ++ buffer.drain.1) buffer.drain.2 ∧
      buffer.drain.2.held.get? buffer.drain.2.next = none := by
  induction buffer using drain.induct generalizing gone ready with
  | case1 buffer absent =>
    rw [drain_of_none absent, List.append_nil]
    exact ⟨gone, sorting, absent⟩
  | case2 buffer held present _ _ _ ih =>
    obtain ⟨further, rest, settled⟩ := ih (sorting.leave half present)
    rw [drain_of_some present]
    rw [List.append_assoc] at rest
    exact ⟨further, rest, settled⟩

/-! ## What comes -/

/-- The expected item comes and leaves at once. -/
theorem Sorting.pass (half : count ≤ 0x8000)
    (sorting : Sorting start count arrivals gone ready buffer)
    (absent : buffer.held.get? buffer.next = none) (inside : gone < count)
    (expected : arrival.sequence = buffer.next) :
    Sorting start count (arrivals ++ [arrival]) (gone + 1) (ready ++ [arrival.item])
      { buffer with next := buffer.next + 1 } := by
  have place : arrival.sequence = start + UInt16.ofNat gone := expected.trans sorting.next
  have other {steps : Nat} (short : steps < count) (apart : steps ≠ gone) :
      arrival.sequence ≠ start + UInt16.ofNat steps := by
    rw [place, Ne, add_ofNat_inj (by omega) (by omega)]
    exact Ne.symm apart
  have unseen : first? arrivals arrival.sequence = none := by
    have held := sorting.held gone (Nat.le_refl gone) inside
    rwa [← place, expected, absent, eq_comm, Option.map_eq_none_iff, ← expected] at held
  constructor
  · exact sorting.room
  · exact inside
  · rw [firstItems_succ, firstItems_concat_of_ne fun steps left => other (by omega) (by omega),
      ← place, first?_concat_of_none unseen, List.map_append, sorting.ready]
    rfl
  · rw [add_ofNat_succ, ← sorting.next]
  · intro steps ahead short
    rw [first?_concat_of_ne (other short (by omega))]
    exact sorting.held steps (Nat.le_of_succ_le ahead) short
  · intro sequence held
    obtain ⟨steps, ahead, short, rfl⟩ := sorting.only sequence held
    have apart : steps ≠ gone := fun same => held (same ▸ sorting.next ▸ absent)
    exact ⟨steps, by omega, short, rfl⟩

/-- An item that is ahead of the expected one and comes first with its number is held. -/
theorem Sorting.hold (half : count ≤ 0x8000)
    (sorting : Sorting start count arrivals gone ready buffer) {steps : Nat} (ahead : gone ≤ steps)
    (short : steps < count) (place : arrival.sequence = start + UInt16.ofNat steps)
    (unseen : first? arrivals arrival.sequence = none) :
    Sorting start count (arrivals ++ [arrival]) gone ready
      { buffer with held := buffer.held.insert arrival.sequence arrival.heldItem } := by
  have other {near : Nat} (inside : near < count) (apart : near ≠ steps) :
      arrival.sequence ≠ start + UInt16.ofNat near := by
    rw [place, Ne, add_ofNat_inj (by omega) (by omega)]
    exact Ne.symm apart
  constructor
  · exact sorting.room
  · exact sorting.within
  · rw [sorting.ready, firstItems_concat_of_ne fun near left => other (by omega) (by omega)]
  · exact sorting.next
  · intro near further inside
    by_cases same : near = steps
    · rw [same, ← place, Table.get?_insert_self, first?_concat_of_none unseen]
      rfl
    · have apart := other inside same
      rw [Table.get?_insert_of_ne _ _ apart.symm, first?_concat_of_ne apart]
      exact sorting.held near further inside
  · intro sequence held
    by_cases same : sequence = arrival.sequence
    · exact ⟨steps, ahead, short, same.trans place⟩
    · rw [Table.get?_insert_of_ne _ _ same] at held
      exact sorting.only sequence held

/-- Whatever is held, there is room for it: the expected number is missing. -/
theorem Sorting.size_le (sorting : Sorting start count arrivals gone ready buffer)
    (absent : buffer.held.get? buffer.next = none) : buffer.held.size ≤ buffer.capacity := by
  have among : buffer.held.keys ⊆
      (List.range' (gone + 1) (count - 1 - gone)).map fun steps => start + UInt16.ofNat steps := by
    intro sequence key
    have held := Table.mem_keys.mp key
    obtain ⟨steps, ahead, short, rfl⟩ := sorting.only sequence held
    have apart : steps ≠ gone := fun same => held (same ▸ sorting.next ▸ absent)
    exact List.mem_map_of_mem (List.mem_range'_1.mpr (by omega))
  have fewer := (List.subperm_of_subset buffer.held.nodup_keys among).length_le
  rw [List.length_map, List.length_range', Table.keys, List.length_map] at fewer
  exact Nat.le_trans fewer (Nat.le_trans (Nat.sub_le ..) sorting.room)

/-- Whatever number of the stretch comes next, its items go on being sorted. -/
theorem Sorting.push (half : count ≤ 0x8000)
    (sorting : Sorting start count arrivals gone ready buffer)
    (absent : buffer.held.get? buffer.next = none)
    (inside : ∃ steps < count, arrival.sequence = start + UInt16.ofNat steps) :
    ∃ further, Sorting start count (arrivals ++ [arrival]) further
        (ready ++ (buffer.move arrival.move).1) (buffer.move arrival.move).2 ∧
      (buffer.move arrival.move).2.held.get? (buffer.move arrival.move).2.next = none := by
  obtain ⟨steps, short, place⟩ := inside
  have few := sorting.within
  have current : arrival.sequence = buffer.next ↔ steps = gone := by
    rw [place, sorting.next, add_ofNat_inj (by omega) (by omega)]
  have onward : isAhead arrival.sequence buffer.next = true ↔ gone < steps := by
    rw [place, sorting.next, isAhead_add_ofNat_iff (by omega) (by omega)]
  have moved : buffer.move arrival.move =
      buffer.push arrival.sequence arrival.item arrival.now := rfl
  rw [moved, ReorderBuffer.push]
  rcases Nat.lt_trichotomy steps gone with behind | here | ahead
  · -- The item with this number has left.
    have other : arrival.sequence ≠ buffer.next := fun same =>
      Nat.ne_of_lt behind (current.mp same)
    have stale : isAhead arrival.sequence buffer.next = false :=
      Bool.eq_false_iff.mpr fun front => Nat.lt_asymm behind (onward.mp front)
    have seen := sorting.seen_of_lt behind
    rw [if_neg other, stale, Bool.not_false, if_pos rfl, List.append_nil]
    exact ⟨gone, sorting.repeated (place ▸ seen), absent⟩
  · have expected := current.mpr here
    have inside : gone < count := here ▸ short
    obtain ⟨further, rest, settled⟩ := (sorting.pass half absent inside expected).drain half
    rw [if_pos expected]
    rw [List.append_assoc] at rest
    exact ⟨further, rest, settled⟩
  · have other : arrival.sequence ≠ buffer.next := fun same =>
      Nat.ne_of_gt ahead (current.mp same)
    have held := sorting.held steps (Nat.le_of_lt ahead) short
    rw [if_neg other, onward.mpr ahead, Bool.not_true, if_neg Bool.false_ne_true]
    rw [← place] at held
    cases seen : first? arrivals arrival.sequence with
    | some first =>
      rw [seen] at held
      have known : buffer.held.contains arrival.sequence = true := by simp [Table.contains, held]
      have fits := Nat.not_lt.mpr (sorting.size_le absent)
      simp only [known, if_true, if_neg fits, List.append_nil]
      exact ⟨gone, sorting.repeated (by simp [seen]), absent⟩
    | none =>
      rw [seen] at held
      have new : buffer.held.contains arrival.sequence = false := by simp [Table.contains, held]
      have holding := sorting.hold half (Nat.le_of_lt ahead) short place seen
      have missing : (buffer.held.insert arrival.sequence arrival.heldItem).get? buffer.next =
          none := by
        rw [Table.get?_insert_of_ne _ _ other.symm, absent]
      have fits := Nat.not_lt.mpr (holding.size_le missing)
      rw [Arrival.heldItem] at fits holding missing
      simp only [new, Bool.false_eq_true, if_false, if_neg fits, List.append_nil]
      exact ⟨gone, holding, missing⟩

/-! ## All arrivals -/

/-- Where only numbers of the stretch have come, their items are sorted. -/
theorem sorting_run (start : Sequence) {capacity : Nat} (half : count ≤ 0x8000)
    (room : count - 1 ≤ capacity) (timeout : Span)
    (inside : ∀ arrival ∈ arrivals, ∃ steps < count,
      arrival.sequence = start + UInt16.ofNat steps) :
    ∃ gone, Sorting start count arrivals gone
        ((empty start capacity timeout).run (arrivals.map Arrival.move)).1.flatten
        ((empty start capacity timeout).run (arrivals.map Arrival.move)).2 ∧
      ((empty start capacity timeout).run (arrivals.map Arrival.move)).2.held.get?
        ((empty start capacity timeout).run (arrivals.map Arrival.move)).2.next = none := by
  induction arrivals using List.reverseRecOn with
  | nil => exact ⟨0, sorting_empty start room timeout, rfl⟩
  | append_singleton arrivals last ih =>
    obtain ⟨gone, sorting, absent⟩ := ih fun arrival present =>
      inside arrival (List.mem_append_left _ present)
    have comes := inside last (List.mem_append_right _ (List.mem_singleton_self last))
    rw [List.map_append, List.map_singleton, run_concat, List.flatten_concat]
    exact sorting.push half absent comes

/-- When the `count` numbers from `start` on have come, each at least once, in any order, at any
times and with any repeats, their items have left in the order of their numbers, each number
with the item that came first with it. Nothing is held then, and the number behind the last is
expected. The stretch is at most half the ring, and the buffer has room for all of it but one. -/
theorem sorts_arrivals (start : Sequence) {capacity : Nat} (half : count ≤ 0x8000)
    (room : count - 1 ≤ capacity) (timeout : Span)
    (inside : ∀ arrival ∈ arrivals, ∃ steps < count,
      arrival.sequence = start + UInt16.ofNat steps)
    (all : ∀ steps < count, ∃ arrival ∈ arrivals,
      arrival.sequence = start + UInt16.ofNat steps) :
    let outcome := (empty start capacity timeout).run (arrivals.map Arrival.move)
    outcome.1.flatten.map some = firstItems arrivals start count ∧ outcome.2.held = .empty ∧
      outcome.2.next = start + UInt16.ofNat count := by
  obtain ⟨gone, sorting, absent⟩ := sorting_run start half room timeout inside
  have whole : gone = count := by
    refine Nat.le_antisymm sorting.within (Nat.le_of_not_lt fun short => ?_)
    -- Otherwise the expected number has come, and would be held.
    obtain ⟨arrival, present, place⟩ := all gone short
    have held := sorting.held gone (Nat.le_refl gone) short
    rw [← sorting.next, absent, eq_comm, Option.map_eq_none_iff, first?,
      List.find?_eq_none] at held
    exact held arrival present (decide_eq_true (place.trans sorting.next.symm))
  subst whole
  refine ⟨sorting.ready, Table.ext_entries ?_, sorting.next⟩
  refine List.eq_nil_iff_forall_not_mem.mpr fun entry present => ?_
  have held := Table.get?_eq_some_iff.mpr (show (entry.1, entry.2) ∈ _ from present)
  obtain ⟨steps, ahead, short, -⟩ := sorting.only entry.1 (by simp [held])
  exact Nat.not_lt.mpr ahead short

/-- Four numbers around the end of the ring, out of order and with repeats of what is held and of
what has left. -/
def shuffledArrivals : List (Arrival Char) :=
  [⟨1, 'd', 0⟩, ⟨65535, 'b', 1⟩, ⟨1, 'x', 2⟩, ⟨65534, 'a', 3⟩, ⟨65535, 'y', 4⟩, ⟨0, 'c', 5⟩,
    ⟨1, 'z', 6⟩]

/-- The items that came first leave in the order of their numbers. -/
theorem sorts_arrivals_shuffledArrivals :
    4 ≤ 0x8000 ∧ 4 - 1 ≤ 3 ∧
      (∀ arrival ∈ shuffledArrivals, ∃ steps < 4,
        arrival.sequence = 65534 + UInt16.ofNat steps) ∧
      (∀ steps < 4, ∃ arrival ∈ shuffledArrivals,
        arrival.sequence = 65534 + UInt16.ofNat steps) ∧
      ((empty 65534 3 0).run (shuffledArrivals.map Arrival.move)).1.flatten =
        ['a', 'b', 'c', 'd'] ∧
      ((empty 65534 3 0).run (shuffledArrivals.map Arrival.move)).2.held = .empty ∧
      ((empty 65534 3 0).run (shuffledArrivals.map Arrival.move)).2.next = 2 := by
  have inside : ∀ arrival ∈ shuffledArrivals, ∃ steps < 4,
      arrival.sequence = 65534 + UInt16.ofNat steps := by
    decide
  have all : ∀ steps < 4, ∃ arrival ∈ shuffledArrivals,
      arrival.sequence = 65534 + UInt16.ofNat steps := by
    decide
  obtain ⟨ready, held, next⟩ := sorts_arrivals 65534 (by decide) (Nat.le_refl 3) 0 inside all
  have first : firstItems shuffledArrivals 65534 4 = ['a', 'b', 'c', 'd'].map some := by decide
  rw [first] at ready
  exact ⟨by decide, by decide, inside, all,
    List.map_injective_iff.mpr (fun _ _ => Option.some.inj) ready, held, next⟩

end ReorderBuffer

end SessionLayer
