import SessionLayer.Data.Table
import SessionLayer.Sequence
import SessionLayer.Time

/-!
# Putting items back in order

Items arrive with numbers and leave in the order of their numbers. An item that
is ahead of the expected number is held until the gap in front of it closes. A
gap that stays open is given up when too many items are held or one is held too
long: the buffer then goes on with the lowest number that it holds.
-/

namespace SessionLayer

/-- An item that waits, and since when. -/
structure HeldItem (α : Type) where
  item : α
  since : Instant

/-- The items that wait for a gap in front of them. -/
structure ReorderBuffer (α : Type) where
  /-- The number whose item leaves next. -/
  next : Sequence
  held : Table Sequence (HeldItem α)
  /-- The most items that may be held. -/
  capacity : Nat
  /-- How long an item may be held. -/
  timeout : Span

namespace Table

variable {α β : Type} [DecidableEq α]

/-- Taking out a key that is there leaves fewer entries. -/
theorem size_erase_lt {table : Table α β} {key : α} {value : β}
    (h : table.get? key = some value) : (table.erase key).size < table.size := by
  have present : key ∈ table.keys := mem_keys.mpr (by simp [h])
  simp only [keys, List.mem_map] at present
  obtain ⟨entry, mem, rfl⟩ := present
  have smaller := (List.filter_sublist (p := fun other : α × β => other.1 ≠ entry.1)
    (l := table.entries)).length_le
  refine Nat.lt_of_le_of_ne smaller fun same => ?_
  have := List.length_filter_eq_length_iff.mp same entry mem
  simp at this

end Table

namespace ReorderBuffer

variable {α : Type}

/-- A buffer that holds nothing. -/
def empty (next : Sequence) (capacity : Nat) (timeout : Span) : ReorderBuffer α :=
  ⟨next, .empty, capacity, timeout⟩

/-- Starts again at another number. What is held is lost. -/
def restart (buffer : ReorderBuffer α) (next : Sequence) : ReorderBuffer α :=
  { buffer with next, held := .empty }

/-- Lets go of the items from the expected number on, as far as they follow each
other. -/
def drain (buffer : ReorderBuffer α) : List α × ReorderBuffer α :=
  match _h : buffer.held.get? buffer.next with
  | none => ([], buffer)
  | some held =>
    let (ready, buffer) :=
      drain { buffer with next := buffer.next + 1, held := buffer.held.erase buffer.next }
    (held.item :: ready, buffer)
  termination_by buffer.held.size
  decreasing_by exact Table.size_erase_lt _h

/-- The held number that is reached first from the expected one. -/
def lowest? (buffer : ReorderBuffer α) : Option Sequence :=
  ((buffer.held.keys.map fun sequence => (Sequence.distance buffer.next sequence).toNat).min?).map
    fun steps => buffer.next + UInt16.ofNat steps

/-- Gives up the gap: goes on with the lowest number that is held. -/
def resync (buffer : ReorderBuffer α) : List α × ReorderBuffer α :=
  match buffer.lowest? with
  | none => ([], buffer)
  | some next => drain { buffer with next }

/-- Takes an item and lets go of everything that can leave now. An item behind
the expected number is dropped, and so is one whose number is held already. -/
def push (buffer : ReorderBuffer α) (sequence : Sequence) (item : α) (now : Instant) :
    List α × ReorderBuffer α :=
  if sequence = buffer.next then
    let (ready, buffer) := drain { buffer with next := buffer.next + 1 }
    (item :: ready, buffer)
  else if !Sequence.isAhead sequence buffer.next then ([], buffer)
  else
    let held :=
      if buffer.held.contains sequence then buffer.held
      else buffer.held.insert sequence ⟨item, now⟩
    let buffer := { buffer with held }
    if buffer.capacity < held.size then buffer.resync else ([], buffer)

/-- Whether an item is held too long. -/
def isStale (buffer : ReorderBuffer α) (now : Instant) : Bool :=
  buffer.held.values.any fun held => buffer.timeout ≤ now - held.since

/-- Gives up the gap if an item is held too long. -/
def expire (buffer : ReorderBuffer α) (now : Instant) : List α × ReorderBuffer α :=
  if buffer.isStale now then buffer.resync else ([], buffer)

end ReorderBuffer

end SessionLayer
