import SessionLayer.Proofs.Delivery.Reordering

/-!
# Items that are held too long

An expiry gives up one gap, the one in front of the lowest held number, and lets go of the
items from there on that follow each other. So an item that is held too long leaves only if no
second gap lies in front of it: `ReorderBuffer.overdue_expire_iff` says of every buffer what is
still held too long after an expiry. Each expiry that finds such an item lets go of at least
one, and so as many expiries as there are items leave none. `ReorderBuffer.nothing_overdue_iff`
puts the two together.
-/

namespace SessionLayer

namespace ReorderBuffer

open Sequence

variable {α : Type} {buffer : ReorderBuffer α} {now : Instant} {sequence : Sequence}

/-- The buffers that can come up. -/
inductive Reached : ReorderBuffer α → Prop
  | empty (next : Sequence) (capacity : Nat) (timeout : Span) :
    Reached (.empty next capacity timeout)
  | moved {buffer : ReorderBuffer α} (next : Move α) : Reached buffer → Reached (buffer.move next).2
  | restarted {buffer : ReorderBuffer α} (next : Sequence) :
    Reached buffer → Reached (buffer.restart next)

theorem Reached.waits (reached : Reached buffer) : buffer.Waits := by
  induction reached with
  | empty next capacity timeout => exact waits_empty next capacity timeout
  | moved next _ ih =>
    obtain ⟨_, _, releases⟩ := move_releases ih UInt16.ofNat_toNat next
    exact releases.waits
  | restarted next _ _ =>
    exact ⟨fun _ held => absurd (Table.get?_empty _) held, Table.get?_empty _⟩

theorem Reached.run (reached : Reached buffer) (moves : List (Move α)) :
    Reached (buffer.run moves).2 := by
  induction moves generalizing buffer with
  | nil => exact reached
  | cons next moves ih => exact ih (reached.moved next)

/-- The item with this number is held, and for too long. -/
def Overdue (buffer : ReorderBuffer α) (now : Instant) (sequence : Sequence) : Prop :=
  ∃ held, buffer.held.get? sequence = some held ∧ buffer.timeout ≤ now - held.since

/-- A number is missing in front of this one, and one that is nearer still is held. -/
def BehindGap (buffer : ReorderBuffer α) (sequence : Sequence) : Prop :=
  ∃ front missing, buffer.held.get? front ≠ none ∧ buffer.held.get? missing = none ∧
    (distance buffer.next front).toNat < (distance buffer.next missing).toNat ∧
    (distance buffer.next missing).toNat < (distance buffer.next sequence).toNat

theorem isStale_iff : buffer.isStale now = true ↔ ∃ sequence, buffer.Overdue now sequence := by
  simp only [isStale, Table.values, List.any_map, List.any_eq_true, Function.comp_apply,
    decide_eq_true_eq, Prod.exists, ← Table.get?_eq_some_iff]
  exact Iff.rfl

/-! ## One resync -/

theorem limits_drain (buffer : ReorderBuffer α) :
    buffer.drain.2.capacity = buffer.capacity ∧ buffer.drain.2.timeout = buffer.timeout := by
  induction buffer using drain.induct with
  | case1 buffer absent => rw [drain_of_none absent]; exact ⟨rfl, rfl⟩
  | case2 buffer held present _ _ _ ih =>
    rw [drain_of_some present]
    exact ih

theorem limits_resync (buffer : ReorderBuffer α) :
    buffer.resync.2.capacity = buffer.capacity ∧ buffer.resync.2.timeout = buffer.timeout := by
  rw [resync]
  split
  · exact ⟨rfl, rfl⟩
  · exact limits_drain _

/-- Without a lowest number nothing is held. -/
theorem get?_of_lowest?_none (none : buffer.lowest? = none) (sequence : Sequence) :
    buffer.held.get? sequence = .none := by
  rw [lowest?, Option.map_eq_none_iff, List.min?_eq_none_iff, List.map_eq_nil_iff] at none
  rw [Table.get?_eq_none_iff, none]
  exact List.not_mem_nil

/-- What leaves was held, and what is held afterwards is the rest. -/
theorem Releases.get?_eq_some_iff {position first : Nat} {leaving : List (Sequence × HeldItem α)}
    {outcome : List α × ReorderBuffer α} {held : HeldItem α}
    (releases : buffer.Releases [] position first leaving outcome) :
    outcome.2.held.get? sequence = some held ↔
      buffer.held.get? sequence = some held ∧ sequence ∉ leaving.map Prod.fst := by
  have kept := List.append_nil _ ▸ releases.kept
  have distinct : ((leaving ++ outcome.2.held.entries).map Prod.fst).Nodup :=
    (kept.map Prod.fst).nodup_iff.mpr buffer.held.keys_nodup
  rw [List.map_append] at distinct
  rw [Table.get?_eq_some_iff, Table.get?_eq_some_iff, ← kept.mem_iff, List.mem_append]
  constructor
  · intro stays
    have apart := (List.nodup_append.mp distinct).2.2
    exact ⟨.inr stays, fun leaves => apart _ leaves _ (List.mem_map_of_mem stays) rfl⟩
  · rintro ⟨leaves | stays, other⟩
    · exact absurd (List.mem_map_of_mem leaves) other
    · exact stays

/-- The numbers of a row that does not go around the ring are those which so many steps
reach. -/
theorem mem_row_iff {start : Sequence} {position count : Nat}
    (current : UInt16.ofNat position = start) (short : count ≤ 65536) :
    sequence ∈ (List.range' position count).map UInt16.ofNat ↔
      (distance start sequence).toNat < count := by
  rw [List.mem_map]
  constructor
  · rintro ⟨place, among, rfl⟩
    obtain ⟨steps, below, rfl⟩ := List.mem_range'.mp among
    rw [Nat.one_mul, ← current, toNat_distance_ofNat (by omega)]
    exact below
  · intro below
    exact ⟨_, List.mem_range'_1.mpr ⟨Nat.le_add_right _ _, Nat.add_lt_add_left below _⟩,
      ofNat_add_distance current⟩

/-- A resync that goes on with `lowest` lets go of so many items in a row from there, and the
number behind the row is missing. -/
structure FreesRow (buffer : ReorderBuffer α) (lowest : Sequence) (count : Nat) : Prop where
  pos : 0 < count
  half : (distance buffer.next lowest).toNat + count ≤ 0x8000
  size : count + buffer.resync.2.held.size = buffer.held.size
  full : ∀ sequence, (distance lowest sequence).toNat < count →
    buffer.held.get? sequence ≠ none
  gap : buffer.held.get? (lowest + UInt16.ofNat count) = none
  kept : ∀ sequence held, buffer.resync.2.held.get? sequence = some held ↔
    buffer.held.get? sequence = some held ∧ count ≤ (distance lowest sequence).toNat

theorem Waits.exists_freesRow (waits : buffer.Waits) {lowest : Sequence}
    (found : buffer.lowest? = some lowest) : ∃ count, buffer.FreesRow lowest count := by
  have present := (lowest?_eq_some found).1
  have near := waits.within lowest present
  obtain ⟨leaving, fewer, drained⟩ := drain_releases _ (waits.within_lowest found)
    (Nat.sub_le _ _) (UInt16.ofNat_toNat (x := lowest))
  have resynced : buffer.resync = drain { buffer with next := lowest } := by rw [resync, found]
  have row {other : Sequence} : other ∈ leaving.map Prod.fst ↔
      (distance lowest other).toNat < leaving.length := by
    rw [drained.numbered]
    exact mem_row_iff UInt16.ofNat_toNat (by omega)
  have left {other : Sequence} (among : other ∈ leaving.map Prod.fst) :
      buffer.held.get? other ≠ none := by
    obtain ⟨entry, leaves, rfl⟩ := List.mem_map.mp among
    have was : entry ∈ buffer.held.entries := by
      rw [← List.append_nil buffer.held.entries]
      exact drained.kept.subset (List.mem_append_left _ leaves)
    rw [Table.get?_eq_some_iff.mpr was]
    exact Option.some_ne_none _
  have gap : buffer.held.get? (lowest + UInt16.ofNat leaving.length) = none := by
    have behind : lowest + UInt16.ofNat leaving.length =
        (drain { buffer with next := lowest }).2.next := by
      rw [← drained.next, UInt16.ofNat_add, UInt16.ofNat_toNat]
    rw [behind, Option.eq_none_iff_forall_ne_some]
    intro held was
    have outside : (drain { buffer with next := lowest }).2.next ∉ leaving.map Prod.fst := by
      rw [row, ← behind, toNat_distance_self_add lowest (by omega)]
      exact Nat.lt_irrefl _
    have stays := drained.get?_eq_some_iff.mpr ⟨was, outside⟩
    rw [drained.waits.absent] at stays
    cases stays
  refine ⟨leaving.length, ?_, by omega, ?_, fun other reached => left (row.mpr reached), gap, ?_⟩
  · -- a row of length zero would leave the lowest number itself behind
    refine Nat.pos_of_ne_zero fun none => present ?_
    have here : lowest + UInt16.ofNat 0 = lowest := UInt16.add_zero lowest
    rwa [none, here] at gap
  · rw [resynced, Table.size, Table.size, ← List.length_append]
    exact (List.append_nil buffer.held.entries ▸ drained.kept).length_eq
  · intro other held
    rw [resynced, drained.get?_eq_some_iff, row, Nat.not_lt]

/-- What a resync leaves is what lies behind a gap in front of which something is held. -/
theorem FreesRow.behindGap_iff {lowest : Sequence} {count : Nat}
    (frees : buffer.FreesRow lowest count) (found : buffer.lowest? = some lowest)
    (held : buffer.held.get? sequence ≠ none) :
    buffer.BehindGap sequence ↔ count ≤ (distance lowest sequence).toNat := by
  obtain ⟨present, least⟩ := lowest?_eq_some found
  have through (other : Sequence)
      (behind : (distance buffer.next lowest).toNat ≤ (distance buffer.next other).toNat) :=
    toNat_distance_of_le behind
  have ahead := through sequence (least sequence held)
  have half := frees.half
  constructor
  · rintro ⟨front, missing, before, absent, first, second⟩
    have start := least front before
    have between := through missing (by omega)
    refine Nat.le_of_not_lt fun inside => frees.full missing ?_ absent
    omega
  · intro behind
    have other : (distance lowest sequence).toNat ≠ count := by
      intro same
      have here : sequence = lowest + UInt16.ofNat count := by
        rw [← add_distance lowest sequence, ← same, UInt16.ofNat_toNat]
      exact held (here ▸ frees.gap)
    have walked : (distance buffer.next (lowest + UInt16.ofNat count)).toNat =
        (distance buffer.next lowest).toNat + count := toNat_distance_add (by omega)
    have pos := frees.pos
    exact ⟨lowest, _, present, frees.gap, by omega, by omega⟩

theorem get?_resync_eq_some_iff (waits : buffer.Waits) {held : HeldItem α} :
    buffer.resync.2.held.get? sequence = some held ↔
      buffer.held.get? sequence = some held ∧ buffer.BehindGap sequence := by
  cases found : buffer.lowest? with
  | none =>
    have nothing := get?_of_lowest?_none found sequence
    have same : buffer.resync = ([], buffer) := by rw [resync, found]
    rw [same, nothing]
    simp
  | some lowest =>
    obtain ⟨count, frees⟩ := waits.exists_freesRow found
    rw [frees.kept]
    refine and_congr_right fun was => (frees.behindGap_iff found ?_).symm
    rw [was]
    exact Option.some_ne_none held

/-- A gap that is given up lets go of an item, if one is held. -/
theorem size_resync_lt (waits : buffer.Waits) (held : buffer.held.get? sequence ≠ none) :
    buffer.resync.2.held.size < buffer.held.size := by
  cases found : buffer.lowest? with
  | none => exact absurd (get?_of_lowest?_none found sequence) held
  | some lowest =>
    obtain ⟨count, frees⟩ := waits.exists_freesRow found
    have pos := frees.pos
    have size := frees.size
    omega

/-! ## Expiries -/

/-- Only a buffer with an item that is held too long changes, and it loses an item. -/
theorem size_expire_lt (waits : buffer.Waits) (overdue : buffer.Overdue now sequence) :
    (buffer.expire now).2.held.size < buffer.held.size := by
  rw [expire, if_pos (isStale_iff.mpr ⟨sequence, overdue⟩)]
  obtain ⟨held, was, -⟩ := overdue
  have present : buffer.held.get? sequence ≠ none := by
    rw [was]
    exact Option.some_ne_none held
  exact size_resync_lt waits present

theorem expire_of_none (none : ∀ sequence, ¬ buffer.Overdue now sequence) :
    buffer.expire now = ([], buffer) := by
  rw [expire, if_neg]
  exact fun stale => (isStale_iff.mp stale).elim none

/-- What is held too long after an expiry was so before, and lies behind a second gap. -/
theorem overdue_expire_iff (waits : buffer.Waits) :
    (buffer.expire now).2.Overdue now sequence ↔
      buffer.Overdue now sequence ∧ buffer.BehindGap sequence := by
  by_cases stale : ∃ sequence, buffer.Overdue now sequence
  · rw [expire, if_pos (isStale_iff.mpr stale)]
    simp only [Overdue, (limits_resync buffer).2, get?_resync_eq_some_iff waits]
    constructor
    · rintro ⟨held, ⟨was, behind⟩, long⟩
      exact ⟨⟨held, was, long⟩, behind⟩
    · rintro ⟨⟨held, was, long⟩, behind⟩
      exact ⟨held, ⟨was, behind⟩, long⟩
  · rw [expire_of_none fun other overdue => stale ⟨other, overdue⟩]
    have never : ¬ buffer.Overdue now sequence := fun overdue => stale ⟨sequence, overdue⟩
    exact iff_of_false never fun both => never both.1

/-- Expiries that are as many as the items, where one is held too long, leave none that is. -/
theorem not_overdue_run (reached : Reached buffer) {times : Nat}
    (enough : ∀ sequence, buffer.Overdue now sequence → buffer.held.size ≤ times) :
    ¬ (buffer.run (List.replicate times (.expire now))).2.Overdue now sequence := by
  induction times generalizing buffer with
  | zero =>
    intro overdue
    have none := List.length_eq_zero_iff.mp (Nat.le_zero.mp (enough sequence overdue))
    obtain ⟨held, was, -⟩ := overdue
    have present := Table.get?_eq_some_iff.mp was
    rw [List.replicate_zero, run, none] at present
    cases present
  | succ times ih =>
    rw [List.replicate_succ, run]
    refine ih (reached.moved (.expire now)) fun other overdue => ?_
    have before := ((overdue_expire_iff reached.waits).mp overdue).1
    have fewer := size_expire_lt reached.waits before
    exact Nat.le_of_lt_succ (Nat.lt_of_lt_of_le fewer (enough other before))

/-- Whatever came up before, an expiry leaves no item that is held too long exactly if none of
these lies behind a second gap. As many expiries as there are items leave none in any case. -/
theorem nothing_overdue_iff (reached : Reached buffer) (now : Instant) :
    ((∀ sequence, ¬ (buffer.expire now).2.Overdue now sequence) ↔
      ∀ sequence, buffer.Overdue now sequence → ¬ buffer.BehindGap sequence) ∧
    ∀ sequence,
      ¬ (buffer.run (List.replicate buffer.held.size (.expire now))).2.Overdue now sequence := by
  constructor
  · simp only [overdue_expire_iff reached.waits, not_and]
  · exact fun sequence => not_overdue_run reached fun _ _ => Nat.le_refl _

/-- Two items that wait behind a gap each. -/
def twoGaps : ReorderBuffer Unit :=
  ((empty 1 4 5000000).run [.push 3 () 0, .push 5 () 0]).2

/-- After the time that items may be held, one expiry leaves the second of them, and two leave
nothing. -/
theorem nothing_overdue_iff_twoGaps :
    Reached twoGaps ∧ ¬ (∀ sequence, ¬ (twoGaps.expire 5000000).2.Overdue 5000000 sequence) ∧
      ∀ sequence,
        ¬ (twoGaps.run [.expire 5000000, .expire 5000000]).2.Overdue 5000000 sequence := by
  have reached : Reached twoGaps := (Reached.empty 1 4 5000000).run _
  obtain ⟨once, twice⟩ := nothing_overdue_iff reached 5000000
  have overdue : twoGaps.Overdue 5000000 5 := ⟨⟨(), 0⟩, rfl, Nat.le_refl _⟩
  have behind : twoGaps.BehindGap 5 := ⟨3, 4, by decide, rfl, by decide, by decide⟩
  exact ⟨reached, fun none => once.mp none 5 overdue behind, twice⟩

end ReorderBuffer

end SessionLayer
