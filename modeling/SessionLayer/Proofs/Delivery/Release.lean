import SessionLayer.Delivery.Reorder
import SessionLayer.Proofs.Data.Table

/-!
# What a reorder buffer lets go of

The numbers of the ring are counted here as positions: natural numbers that stand for
their remainders. Everything that waits in a reorder buffer is less than half the ring
ahead of the expected number, `ReorderBuffer.Waits`. So whatever is done to the buffer,
the items that leave have positions in a row, from the expected one or a later one up to
the new expected one, and all others stay: `ReorderBuffer.move_releases`.
-/

namespace SessionLayer

namespace Sequence

theorem toNat_distance (start finish : Sequence) :
    (distance start finish).toNat = (65536 - start.toNat + finish.toNat) % 65536 :=
  UInt16.toNat_sub _ _

/-- A number that is not reached at once is one step nearer after one step. -/
theorem toNat_distance_succ {start finish : Sequence} (other : finish ≠ start) :
    (distance (start + 1) finish).toNat + 1 = (distance start finish).toNat := by
  have apart : finish.toNat ≠ start.toNat := fun same => other (UInt16.toNat_inj.mp same)
  have one : (start + 1).toNat = (start.toNat + 1) % 65536 := UInt16.toNat_add _ _
  have := start.toNat_lt
  have := finish.toNat_lt
  simp only [toNat_distance, one]
  omega

/-- Behind a nearer number the way to a farther one is what is left of it. -/
theorem toNat_distance_of_le {start near far : Sequence}
    (le : (distance start near).toNat ≤ (distance start far).toNat) :
    (distance near far).toNat = (distance start far).toNat - (distance start near).toNat := by
  have := start.toNat_lt
  have := near.toNat_lt
  have := far.toNat_lt
  simp only [toNat_distance] at le ⊢
  omega

theorem add_distance (start finish : Sequence) : start + distance start finish = finish := by
  rw [distance, UInt16.add_comm, UInt16.sub_add_cancel]

/-- A position that stands for a number, and the one that so many steps lead to. -/
theorem ofNat_add_distance {position : Nat} {start finish : Sequence}
    (current : UInt16.ofNat position = start) :
    UInt16.ofNat (position + (distance start finish).toNat) = finish := by
  rw [UInt16.ofNat_add, current, UInt16.ofNat_toNat, add_distance]

theorem ofNat_succ {position : Nat} {sequence : Sequence}
    (current : UInt16.ofNat position = sequence) :
    UInt16.ofNat (position + 1) = sequence + 1 := by
  rw [UInt16.ofNat_add, current]
  rfl

/-- Within one turn of the ring a number of steps can be read off the numbers. -/
theorem toNat_distance_ofNat {position steps : Nat} (short : steps < 65536) :
    (distance (UInt16.ofNat position) (UInt16.ofNat (position + steps))).toNat = steps := by
  rw [toNat_distance, UInt16.toNat_ofNat', UInt16.toNat_ofNat']
  omega

/-- As long as it does not go around the ring, a way and some steps more are so long. -/
theorem toNat_distance_add {start near : Sequence} {count : Nat}
    (short : (distance start near).toNat + count < 65536) :
    (distance start (near + UInt16.ofNat count)).toNat = (distance start near).toNat + count := by
  simp only [toNat_distance, UInt16.toNat_add, UInt16.toNat_ofNat'] at short ⊢
  omega

theorem toNat_distance_self_add (start : Sequence) {count : Nat} (short : count < 65536) :
    (distance start (start + UInt16.ofNat count)).toNat = count := by
  have none : (distance start start).toNat = 0 := by rw [distance, UInt16.sub_self]; rfl
  rw [toNat_distance_add (by omega), none, Nat.zero_add]

end Sequence

namespace ReorderBuffer

open Sequence

variable {α : Type} {buffer : ReorderBuffer α}

/-- Everything that is held is fewer than so many steps ahead. -/
def Within (buffer : ReorderBuffer α) (limit : Nat) : Prop :=
  ∀ sequence, buffer.held.get? sequence ≠ none → (distance buffer.next sequence).toNat < limit

/-- Everything that is held is ahead: less than half the ring away, and not expected yet. -/
structure Waits (buffer : ReorderBuffer α) : Prop where
  within : buffer.Within 0x8000
  absent : buffer.held.get? buffer.next = none

theorem waits_empty (next : Sequence) (capacity : Nat) (timeout : Span) :
    (empty next capacity timeout : ReorderBuffer α).Waits :=
  ⟨fun _ held => absurd (Table.get?_empty _) held, Table.get?_empty _⟩

/-- This outcome is what becomes of a buffer at `position` with what comes in addition: the
entries `leaving` leave, with the positions from `first` on, and all others stay. -/
structure Releases (buffer : ReorderBuffer α) (arriving : List (Sequence × HeldItem α))
    (position first : Nat) (leaving : List (Sequence × HeldItem α))
    (outcome : List α × ReorderBuffer α) : Prop where
  ready : outcome.1 = leaving.map fun entry => entry.2.item
  numbered : leaving.map Prod.fst = (List.range' first leaving.length).map UInt16.ofNat
  kept : (leaving ++ outcome.2.held.entries).Perm (buffer.held.entries ++ arriving)
  after : position ≤ first
  before : first + leaving.length ≤ position + 0x8000
  next : UInt16.ofNat (first + leaving.length) = outcome.2.next
  waits : outcome.2.Waits

/-- If nothing leaves, what comes stays. -/
theorem Releases.of_stays {arriving : List (Sequence × HeldItem α)} {position : Nat}
    {later : ReorderBuffer α} (current : UInt16.ofNat position = later.next)
    (kept : later.held.entries.Perm (buffer.held.entries ++ arriving)) (waits : later.Waits) :
    Releases buffer arriving position position [] ([], later) where
  ready := rfl
  numbered := rfl
  kept := kept
  after := Nat.le_refl position
  before := Nat.le_add_right position 0x8000
  next := current
  waits := waits

/-- What is done to a buffer with the newcomers in it is done with the newcomers. -/
theorem Releases.of_perm {arriving : List (Sequence × HeldItem α)} {position first : Nat}
    {leaving : List (Sequence × HeldItem α)} {outcome : List α × ReorderBuffer α}
    {later : ReorderBuffer α} (releases : later.Releases [] position first leaving outcome)
    (kept : later.held.entries.Perm (buffer.held.entries ++ arriving)) :
    buffer.Releases arriving position first leaving outcome :=
  { releases with kept := (List.append_nil _ ▸ releases.kept).trans kept }

/-- If one item leaves, with the first position, the others follow it. -/
theorem Releases.cons {entry : Sequence × HeldItem α}
    {arriving leaving : List (Sequence × HeldItem α)} {position : Nat} {later : ReorderBuffer α}
    {outcome : List α × ReorderBuffer α}
    (rest : later.Releases [] (position + 1) (position + 1) leaving outcome)
    (fewer : leaving.length < 0x8000) (current : UInt16.ofNat position = entry.1)
    (kept : (entry :: later.held.entries).Perm (buffer.held.entries ++ arriving)) :
    buffer.Releases arriving position position (entry :: leaving)
      (entry.2.item :: outcome.1, outcome.2) where
  ready := by rw [List.map_cons, rest.ready]
  numbered := by
    rw [List.map_cons, rest.numbered, List.length_cons, List.range'_succ, List.map_cons, current]
  kept := ((List.append_nil _ ▸ rest.kept).cons entry).trans kept
  after := Nat.le_refl position
  before := by rw [List.length_cons]; omega
  next := by rw [List.length_cons, ← rest.next, Nat.add_comm leaving.length, Nat.add_assoc]
  waits := rest.waits

/-! ## Draining -/

theorem drain_of_none (absent : buffer.held.get? buffer.next = none) :
    buffer.drain = ([], buffer) := by
  rw [drain]
  split
  · rfl
  · rename_i present
    rw [absent] at present
    cases present

theorem drain_of_some {held : HeldItem α} (present : buffer.held.get? buffer.next = some held) :
    buffer.drain =
      let rest := drain { buffer with
        next := buffer.next + 1, held := buffer.held.erase buffer.next }
      (held.item :: rest.1, rest.2) := by
  rw [drain]
  split
  · rename_i absent
    rw [present] at absent
    cases absent
  · rename_i other found
    rw [present, Option.some.injEq] at found
    rw [found]

/-- Once the expected item has left, everything is a step nearer. -/
theorem Within.step {limit : Nat} (within : buffer.Within (limit + 1)) :
    ({ buffer with next := buffer.next + 1, held := buffer.held.erase buffer.next } :
      ReorderBuffer α).Within limit := by
  intro sequence held
  by_cases same : sequence = buffer.next
  · rw [same, Table.get?_erase_self] at held
    exact absurd rfl held
  · rw [Table.get?_erase_of_ne _ same] at held
    have nearer := toNat_distance_succ same
    have := within sequence held
    show (distance (buffer.next + 1) sequence).toNat < limit
    omega

theorem Within.pos {limit : Nat} {held : HeldItem α} (within : buffer.Within limit)
    (present : buffer.held.get? buffer.next = some held) : 0 < limit :=
  Nat.zero_lt_of_lt (within buffer.next (by simp [present]))

/-- The items from the expected one on leave, as long as they follow each other. -/
theorem drain_releases (buffer : ReorderBuffer α) {limit position : Nat}
    (within : buffer.Within limit) (short : limit ≤ 0x8000)
    (current : UInt16.ofNat position = buffer.next) :
    ∃ leaving, leaving.length ≤ limit ∧
      buffer.Releases [] position position leaving buffer.drain := by
  induction buffer using drain.induct generalizing limit position with
  | case1 buffer absent =>
    rw [drain_of_none absent]
    refine ⟨[], Nat.zero_le limit, .of_stays current (by simp) ⟨fun sequence held => ?_, absent⟩⟩
    exact Nat.lt_of_lt_of_le (within sequence held) short
  | case2 buffer held present _ _ _ ih =>
    obtain ⟨limit, rfl⟩ := Nat.exists_eq_add_one.mpr (within.pos present)
    obtain ⟨leaving, fewer, rest⟩ :=
      ih within.step (Nat.le_of_succ_le short) (ofNat_succ current)
    have kept := Table.perm_cons_entries_erase present
    rw [drain_of_some present]
    exact ⟨(buffer.next, held) :: leaving, Nat.succ_le_succ fewer,
      rest.cons (Nat.lt_of_le_of_lt fewer short) current (List.append_nil _ ▸ kept)⟩

/-! ## Giving up a gap -/

/-- The lowest number is held, and no other that is held is reached before it. -/
theorem lowest?_eq_some {lowest : Sequence} (some : buffer.lowest? = some lowest) :
    buffer.held.get? lowest ≠ none ∧ ∀ sequence, buffer.held.get? sequence ≠ none →
      (distance buffer.next lowest).toNat ≤ (distance buffer.next sequence).toNat := by
  rw [lowest?, Option.map_eq_some_iff] at some
  obtain ⟨steps, least, rfl⟩ := some
  obtain ⟨attained, minimal⟩ := List.min?_eq_some_iff.mp least
  obtain ⟨nearest, held, rfl⟩ := List.mem_map.mp attained
  rw [UInt16.ofNat_toNat, add_distance]
  exact ⟨Table.mem_keys.mp held, fun sequence present =>
    minimal _ (List.mem_map_of_mem (Table.mem_keys.mpr present))⟩

/-- From the lowest number on, what is held is nearer by the way to it. -/
theorem Waits.within_lowest {lowest : Sequence} (waits : buffer.Waits)
    (found : buffer.lowest? = some lowest) :
    ({ buffer with next := lowest } : ReorderBuffer α).Within
      (0x8000 - (distance buffer.next lowest).toNat) := by
  intro sequence present
  have least := (lowest?_eq_some found).2 sequence present
  have := waits.within sequence present
  rw [toNat_distance_of_le least]
  omega

/-- The positions in front of the lowest number are passed over. -/
theorem resync_releases {position : Nat} (waits : buffer.Waits)
    (current : UInt16.ofNat position = buffer.next) :
    ∃ first leaving, buffer.Releases [] position first leaving buffer.resync := by
  rw [resync]
  cases found : buffer.lowest? with
  | none => exact ⟨position, [], .of_stays current (by simp) waits⟩
  | some lowest =>
    have half := waits.within lowest (lowest?_eq_some found).1
    obtain ⟨leaving, fewer, drained⟩ :=
      drain_releases _ (waits.within_lowest found) (Nat.sub_le _ _) (ofNat_add_distance current)
    have before : position + (distance buffer.next lowest).toNat + leaving.length ≤
        position + 0x8000 := by omega
    exact ⟨_, leaving, { drained with after := Nat.le_add_right _ _, before }⟩

/-! ## One move -/

/-- What can be done to a reorder buffer. -/
inductive Move (α : Type) where
  | push (sequence : Sequence) (item : α) (now : Instant)
  | expire (now : Instant)
  | resync

/-- What a move lets go of, and the buffer after it. -/
def move (buffer : ReorderBuffer α) : Move α → List α × ReorderBuffer α
  | .push sequence item now => buffer.push sequence item now
  | .expire now => buffer.expire now
  | .resync => buffer.resync

/-- Whether an item with this number is dropped: it is behind the expected number, or one
with its number is held already. -/
def refuses (buffer : ReorderBuffer α) (sequence : Sequence) : Bool :=
  sequence ≠ buffer.next && !isAhead sequence buffer.next || buffer.held.contains sequence

/-- What a move brings in. -/
def arriving (buffer : ReorderBuffer α) : Move α → List (Sequence × HeldItem α)
  | .push sequence item now => if buffer.refuses sequence then [] else [(sequence, ⟨item, now⟩)]
  | _ => []

theorem toNat_distance_of_isAhead {sequence reference : Sequence}
    (ahead : isAhead sequence reference = true) :
    (distance reference sequence).toNat < 0x8000 := by
  rw [isAhead, Bool.and_eq_true, decide_eq_true_iff, decide_eq_true_iff] at ahead
  exact UInt16.lt_iff_toNat_lt.mp ahead.2

/-- An item ahead of the expected one can wait with the others. -/
theorem Waits.insert {sequence : Sequence} {held : HeldItem α} (waits : buffer.Waits)
    (other : sequence ≠ buffer.next) (ahead : isAhead sequence buffer.next = true) :
    ({ buffer with held := buffer.held.insert sequence held } : ReorderBuffer α).Waits where
  within := by
    intro another present
    by_cases same : another = sequence
    · rw [same]
      exact toNat_distance_of_isAhead ahead
    · exact waits.within another (by rwa [Table.get?_insert_of_ne _ _ same] at present)
  absent := by rw [Table.get?_insert_of_ne _ _ other.symm, waits.absent]

/-- The expected item leaves with those that follow it. -/
theorem push_next_releases {position : Nat} (waits : buffer.Waits)
    (current : UInt16.ofNat position = buffer.next) (item : α) (now : Instant) :
    ∃ leaving, buffer.Releases [(buffer.next, ⟨item, now⟩)] position position leaving
      (buffer.push buffer.next item now) := by
  have within : ({ buffer with next := buffer.next + 1 } : ReorderBuffer α).Within 0x7fff := by
    intro sequence held
    have other : sequence ≠ buffer.next := fun same => held (same ▸ waits.absent)
    have nearer := toNat_distance_succ other
    have := waits.within sequence held
    show (distance (buffer.next + 1) sequence).toNat < 0x7fff
    omega
  obtain ⟨leaving, fewer, rest⟩ := drain_releases _ within (by decide) (ofNat_succ current)
  rw [push, if_pos rfl]
  exact ⟨(buffer.next, ⟨item, now⟩) :: leaving, rest.cons (Nat.lt_succ_of_le fewer) current
    (List.perm_append_singleton _ _).symm⟩

/-- If a new item makes a buffer too full, the gap is given up. -/
theorem overflow_releases {arriving : List (Sequence × HeldItem α)} {position : Nat}
    {later : ReorderBuffer α} (waits : later.Waits)
    (current : UInt16.ofNat position = later.next)
    (kept : later.held.entries.Perm (buffer.held.entries ++ arriving)) :
    ∃ first leaving, buffer.Releases arriving position first leaving
      (if later.capacity < later.held.size then later.resync else ([], later)) := by
  split
  · obtain ⟨first, leaving, releases⟩ := resync_releases waits current
    exact ⟨first, leaving, releases.of_perm kept⟩
  · exact ⟨position, [], .of_stays current kept waits⟩

theorem push_releases {position : Nat} (waits : buffer.Waits)
    (current : UInt16.ofNat position = buffer.next) (sequence : Sequence) (item : α)
    (now : Instant) :
    ∃ first leaving, buffer.Releases (buffer.arriving (.push sequence item now)) position first
      leaving (buffer.push sequence item now) := by
  by_cases expected : sequence = buffer.next
  · subst expected
    have taken : buffer.refuses buffer.next = false := by
      simp [refuses, Table.contains, waits.absent]
    rw [arriving, taken, if_neg Bool.false_ne_true]
    exact ⟨position, push_next_releases waits current item now⟩
  rw [push, if_neg expected]
  cases ahead : isAhead sequence buffer.next with
  | false =>
    have refused : buffer.refuses sequence = true := by simp [refuses, expected, ahead]
    rw [arriving, refused, if_pos rfl]
    exact ⟨position, [], .of_stays current (by simp) waits⟩
  | true =>
    cases known : buffer.held.contains sequence with
    | true =>
      have refused : buffer.refuses sequence = true := by simp [refuses, known]
      rw [arriving, refused, if_pos rfl]
      exact overflow_releases waits current (by simp)
    | false =>
      have taken : buffer.refuses sequence = false := by simp [refuses, ahead, known]
      have absent : buffer.held.get? sequence = none := by
        simpa [Table.contains] using known
      rw [arriving, taken, if_neg Bool.false_ne_true]
      refine overflow_releases (waits.insert expected ahead) current ?_
      rw [if_neg Bool.false_ne_true, Table.entries_insert_of_none _ absent]

/-- Whatever is done to a buffer, the items that leave have positions in a row, which end
before the new expected one, and all others stay. -/
theorem move_releases {position : Nat} (waits : buffer.Waits)
    (current : UInt16.ofNat position = buffer.next) (next : Move α) :
    ∃ first leaving,
      buffer.Releases (buffer.arriving next) position first leaving (buffer.move next) := by
  cases next with
  | push sequence item now => exact push_releases waits current sequence item now
  | resync => exact resync_releases waits current
  | expire now =>
    rw [move, expire]
    split
    · exact resync_releases waits current
    · exact ⟨position, [], .of_stays current (by simp [arriving]) waits⟩

end ReorderBuffer

end SessionLayer
