import Mathlib.Data.List.Induction
import Mathlib.Data.List.Perm.Basic
import Mathlib.Order.Monotone.Basic
import SessionLayer.Proofs.Delivery.Release

/-!
# The books of a reorder buffer

A run of pushes, expiries and resyncs is followed item by item. The expected number is
lifted to the natural numbers along the run, `ReorderBuffer.reach`. A `Ledger` says of
each item that left which push brought it and at which lifted position it left, and which
pushes brought the items that are still held. `ReorderBuffer.run_accounts` says that
there is one for every run: items leave in the order of their positions, each at a
position that stands for its number, and every push is in exactly one place of the books.
-/

namespace SessionLayer.ReorderBuffer

open Sequence

variable {α : Type}

/-! ## Runs -/

/-- What each of these moves lets go of, and the buffer after them. -/
def run (buffer : ReorderBuffer α) : List (Move α) → List (List α) × ReorderBuffer α
  | [] => ([], buffer)
  | next :: moves =>
    let (ready, middle) := buffer.move next
    let (later, finish) := middle.run moves
    (ready :: later, finish)

theorem run_concat (buffer : ReorderBuffer α) (moves : List (Move α)) (last : Move α) :
    buffer.run (moves ++ [last]) =
      ((buffer.run moves).1 ++ [((buffer.run moves).2.move last).1],
        ((buffer.run moves).2.move last).2) := by
  induction moves generalizing buffer with
  | nil => rfl
  | cons next moves ih => simp only [List.cons_append, run, ih]

@[simp] theorem length_run (buffer : ReorderBuffer α) (moves : List (Move α)) :
    (buffer.run moves).1.length = moves.length := by
  induction moves generalizing buffer with
  | nil => rfl
  | cons next moves ih => simp only [run, List.length_cons, ih]

/-- The expected number after these moves, lifted to the natural numbers from `position`
on: each move adds the steps that lead from the old expected number up to the new one. -/
def reachFrom (buffer : ReorderBuffer α) (position : Nat) : List (Move α) → Nat
  | [] => position
  | next :: moves =>
    let after := (buffer.move next).2
    after.reachFrom (position + (distance buffer.next after.next).toNat) moves

/-- The expected number after these moves, lifted to the natural numbers. -/
def reach (buffer : ReorderBuffer α) (moves : List (Move α)) : Nat :=
  buffer.reachFrom buffer.next.toNat moves

theorem reachFrom_concat (buffer : ReorderBuffer α) (position : Nat) (moves : List (Move α))
    (last : Move α) :
    buffer.reachFrom position (moves ++ [last]) = buffer.reachFrom position moves +
      (distance (buffer.run moves).2.next ((buffer.run moves).2.move last).2.next).toNat := by
  induction moves generalizing buffer position with
  | nil => rfl
  | cons next moves ih => simp only [List.cons_append, reachFrom, run, ih]

theorem reach_concat (buffer : ReorderBuffer α) (moves : List (Move α)) (last : Move α) :
    buffer.reach (moves ++ [last]) = buffer.reach moves +
      (distance (buffer.run moves).2.next ((buffer.run moves).2.move last).2.next).toNat :=
  reachFrom_concat buffer _ moves last

/-- An item that was pushed. -/
structure Pushed (α : Type) where
  /-- How many moves of the run came before. -/
  place : Nat
  sequence : Sequence
  item : α
  now : Instant

/-- What is held of a push. -/
def Pushed.entry (pushed : Pushed α) : Sequence × HeldItem α :=
  (pushed.sequence, ⟨pushed.item, pushed.now⟩)

/-- The push that a move is. -/
def Move.pushed? (place : Nat) : Move α → Option (Pushed α)
  | .push sequence item now => some ⟨place, sequence, item, now⟩
  | _ => none

/-- The pushes of a run. -/
def pushes (moves : List (Move α)) : List (Pushed α) :=
  moves.zipIdx.filterMap fun (next, place) => next.pushed? place

theorem pushes_concat (moves : List (Move α)) (last : Move α) :
    pushes (moves ++ [last]) = pushes moves ++ (last.pushed? moves.length).toList := by
  rw [pushes, List.zipIdx_append, List.filterMap_append, Nat.zero_add]
  cases last <;> rfl

theorem place_of_pushed? {place : Nat} {next : Move α} {pushed : Pushed α}
    (is : next.pushed? place = some pushed) : pushed.place = place := by
  cases next <;> cases is
  rfl

theorem place_lt_of_mem_pushes {moves : List (Move α)} {pushed : Pushed α}
    (mem : pushed ∈ pushes moves) : pushed.place < moves.length := by
  obtain ⟨⟨next, place⟩, among, is⟩ := List.mem_filterMap.mp mem
  rw [place_of_pushed? is]
  simpa using List.snd_lt_of_mem_zipIdx among

/-- Every push has a place of its own. -/
theorem pairwise_place_pushes (moves : List (Move α)) :
    ((pushes moves).map Pushed.place).Pairwise (· < ·) := by
  induction moves using List.reverseRecOn with
  | nil => exact .nil
  | append_singleton moves last ih =>
    rw [pushes_concat, List.map_append, List.pairwise_append]
    refine ⟨ih, by cases last <;> simp [Move.pushed?], fun earlier among later new => ?_⟩
    obtain ⟨before, present, rfl⟩ := List.mem_map.mp among
    obtain ⟨after, is, rfl⟩ := List.mem_map.mp new
    rw [place_of_pushed? (Option.mem_toList.mp is)]
    exact place_lt_of_mem_pushes present

/-- The pushes whose items were dropped when they came. -/
def dropped (buffer : ReorderBuffer α) (moves : List (Move α)) : List (Pushed α) :=
  (pushes moves).filter fun pushed =>
    (buffer.run (moves.take pushed.place)).2.refuses pushed.sequence

theorem dropped_concat (buffer : ReorderBuffer α) (moves : List (Move α)) (last : Move α) :
    buffer.dropped (moves ++ [last]) = buffer.dropped moves ++
      (last.pushed? moves.length).toList.filter fun pushed =>
        (buffer.run moves).2.refuses pushed.sequence := by
  rw [dropped, pushes_concat, List.filter_append]
  congr 1
  · apply List.filter_congr
    intro pushed among
    rw [List.take_append_of_le_length (Nat.le_of_lt (place_lt_of_mem_pushes among))]
  · apply List.filter_congr
    intro pushed is
    rw [place_of_pushed? (Option.mem_toList.mp is), List.take_left]

theorem arriving_eq (buffer : ReorderBuffer α) (next : Move α) (place : Nat) :
    buffer.arriving next = ((next.pushed? place).toList.filter fun pushed =>
      !buffer.refuses pushed.sequence).map Pushed.entry := by
  cases next with
  | push sequence item now =>
    cases h : buffer.refuses sequence <;> simp [arriving, Move.pushed?, Pushed.entry, h]
  | expire _ | resync => rfl

/-! ## The expected position -/

section Reach

variable {start : ReorderBuffer α} (waits : start.Waits)
include waits

theorem waits_run (moves : List (Move α)) : (start.run moves).2.Waits := by
  induction moves using List.reverseRecOn with
  | nil => exact waits
  | append_singleton moves last ih =>
    obtain ⟨_, _, releases⟩ := move_releases ih UInt16.ofNat_toNat last
    rw [run_concat]
    exact releases.waits

omit waits in
theorem ofNat_reach (start : ReorderBuffer α) (moves : List (Move α)) :
    UInt16.ofNat (start.reach moves) = (start.run moves).2.next := by
  induction moves using List.reverseRecOn with
  | nil => exact UInt16.ofNat_toNat
  | append_singleton moves last ih =>
    rw [reach_concat, run_concat]
    exact ofNat_add_distance ih

/-- What one more move releases, told by the position that the run has reached. -/
theorem reach_releases (moves : List (Move α)) (last : Move α) :
    ∃ first leaving,
      (start.run moves).2.Releases ((start.run moves).2.arriving last)
        (start.reach moves) first leaving ((start.run moves).2.move last) ∧
      start.reach (moves ++ [last]) = first + leaving.length := by
  have current := ofNat_reach start moves
  obtain ⟨first, leaving, releases⟩ := move_releases (waits_run waits moves) current last
  obtain ⟨steps, ends⟩ : ∃ steps, first + leaving.length = start.reach moves + steps :=
    Nat.exists_eq_add_of_le (Nat.le_add_right_of_le releases.after)
  have half := releases.before
  have walked : (distance (start.run moves).2.next
      ((start.run moves).2.move last).2.next).toNat = steps := by
    rw [← releases.next, ← current, ends]
    exact toNat_distance_ofNat (by omega)
  exact ⟨first, leaving, releases, by rw [reach_concat, walked, ends]⟩

/-- The expected position never goes back, and one move leads at most half around the
ring. -/
theorem reach_take_succ (moves : List (Move α)) (place : Nat) :
    start.reach (moves.take place) ≤ start.reach (moves.take (place + 1)) ∧
      start.reach (moves.take (place + 1)) ≤ start.reach (moves.take place) + 0x8000 := by
  rw [List.take_add_one]
  cases moves[place]? with
  | none =>
    rw [Option.toList_none, List.append_nil]
    exact ⟨Nat.le_refl _, Nat.le_add_right _ _⟩
  | some next =>
    obtain ⟨first, leaving, releases, ends⟩ := reach_releases waits (moves.take place) next
    rw [Option.toList_some, ends]
    exact ⟨Nat.le_add_right_of_le releases.after, releases.before⟩

theorem reach_take_mono (moves : List (Move α)) :
    Monotone fun place => start.reach (moves.take place) :=
  monotone_nat_of_le_succ fun place => (reach_take_succ waits moves place).1

end Reach

/-! ## The books -/

/-- An item that has left. -/
structure Departure (α : Type) where
  /-- The push that brought it. -/
  pushed : Pushed α
  /-- The lifted number that was expected when it left. -/
  position : Nat

/-- Where the items of a run have gone. -/
structure Ledger (α : Type) where
  /-- The items that left at each move, in their order. -/
  departures : List (List (Departure α))
  /-- The pushes that brought what is still held. -/
  waiting : List (Pushed α)

/-- The pushes whose items have left. -/
def Ledger.departed (ledger : Ledger α) : List (Pushed α) :=
  ledger.departures.flatten.map Departure.pushed

/-- The ledger is right about a run. -/
structure Ledger.Accounts (ledger : Ledger α) (start : ReorderBuffer α) (moves : List (Move α)) :
    Prop where
  /-- The moves let go of the items in the ledger. -/
  released : (start.run moves).1 =
    ledger.departures.map fun gone => gone.map fun departure => departure.pushed.item
  /-- What is held at the end is what the ledger says. -/
  held : (start.run moves).2.held.entries = ledger.waiting.map Pushed.entry
  /-- No two pushes are one. -/
  distinct : ((pushes moves).map Pushed.place).Nodup
  /-- Every push is once in the books: its item has left, is held, or was dropped. -/
  conserved : (ledger.departed ++ ledger.waiting ++ start.dropped moves).Perm (pushes moves)
  /-- An item leaves at a position that stands for its number. -/
  numbered : ∀ departure ∈ ledger.departures.flatten,
    UInt16.ofNat departure.position = departure.pushed.sequence
  /-- Items leave in the order of their positions. -/
  ordered : (ledger.departures.flatten.map Departure.position).Pairwise (· < ·)
  /-- The positions at which items leave are those that the expected one passes then. -/
  passed : ∀ place gone, ledger.departures[place]? = some gone → ∀ departure ∈ gone,
    start.reach (moves.take place) ≤ departure.position ∧
      departure.position < start.reach (moves.take (place + 1))
  /-- The expected position stands for the expected number. -/
  current : ∀ place, UInt16.ofNat (start.reach (moves.take place)) =
    (start.run (moves.take place)).2.next
  /-- It never goes back, and it is lifted without a doubt: no move leads more than half
  around the ring. -/
  onward : ∀ place,
    start.reach (moves.take place) ≤ start.reach (moves.take (place + 1)) ∧
      start.reach (moves.take (place + 1)) ≤ start.reach (moves.take place) + 0x8000

namespace Ledger

variable {ledger : Ledger α} {start : ReorderBuffer α} {moves : List (Move α)}

theorem accounts_nil (empty : start.held = .empty) : Accounts ⟨[], []⟩ start [] where
  released := rfl
  held := by rw [run, empty]; rfl
  distinct := .nil
  conserved := .nil
  numbered := by simp
  ordered := .nil
  passed := by simp
  current place := by rw [List.take_nil]; exact UInt16.ofNat_toNat
  onward place := by simp

theorem Accounts.length_departures (accounts : ledger.Accounts start moves) :
    ledger.departures.length = moves.length := by
  have := congrArg List.length accounts.released
  rwa [length_run, List.length_map, eq_comm] at this

/-- Everything left before the expected position. -/
theorem Accounts.position_lt (accounts : ledger.Accounts start moves) (waits : start.Waits)
    {departure : Departure α} (gone : departure ∈ ledger.departures.flatten) :
    departure.position < start.reach moves := by
  obtain ⟨during, among, mem⟩ := List.mem_flatten.mp gone
  obtain ⟨place, within, rfl⟩ := List.getElem_of_mem among
  have passed := (accounts.passed place _ (List.getElem?_eq_getElem within) departure mem).2
  rw [accounts.length_departures] at within
  have later := reach_take_mono waits moves (Nat.succ_le_of_lt within)
  simp only [List.take_length] at later
  exact Nat.lt_of_lt_of_le passed later

/-- The departures of one move. -/
def departing (gone : List (Pushed α)) (first : Nat) : List (Departure α) :=
  (gone.zipIdx first).map fun (pushed, position) => ⟨pushed, position⟩

theorem map_pushed_departing (gone : List (Pushed α)) (first : Nat) :
    (departing gone first).map Departure.pushed = gone := by
  rw [departing, List.map_map]
  exact List.zipIdx_map_fst first gone

theorem map_position_departing (gone : List (Pushed α)) (first : Nat) :
    (departing gone first).map Departure.position = List.range' first gone.length := by
  rw [departing, List.map_map]
  exact List.zipIdx_map_snd first gone

theorem mem_departing {gone : List (Pushed α)} {first : Nat} {departure : Departure α}
    (mem : departure ∈ departing gone first) :
    first ≤ departure.position ∧ departure.position < first + gone.length := by
  have among := List.mem_map_of_mem (f := Departure.position) mem
  rw [map_position_departing, List.mem_range'_1] at among
  exact among

/-- Items whose numbers are in a row leave at the positions in a row. -/
theorem numbered_departing {gone : List (Pushed α)} {first : Nat}
    (numbered : gone.map Pushed.sequence = (List.range' first gone.length).map UInt16.ofNat) :
    ∀ departure ∈ departing gone first,
      UInt16.ofNat departure.position = departure.pushed.sequence := by
  have positions := congrArg (List.map UInt16.ofNat) (map_position_departing gone first)
  have sequences := congrArg (List.map Pushed.sequence) (map_pushed_departing gone first)
  rw [List.map_map] at positions sequences
  exact List.map_inj_left.mp (positions.trans (numbered.symm.trans sequences.symm))

/-- Pushes that account for the entries of a list are split as the list is. -/
theorem exists_of_entries_perm {pushed : List (Pushed α)}
    {left right : List (Sequence × HeldItem α)}
    (perm : (left ++ right).Perm (pushed.map Pushed.entry)) :
    ∃ gone still : List (Pushed α), gone.map Pushed.entry = left ∧
      still.map Pushed.entry = right ∧ (gone ++ still).Perm pushed := by
  have split := congrFun (congrFun (List.eq_map_comp_perm (Pushed.entry (α := α))) (left ++ right))
    pushed
  obtain ⟨all, entries, shuffled⟩ := split.mpr perm
  obtain ⟨gone, still, rfl, rfl, rfl⟩ := List.append_eq_map_iff.mp entries
  exact ⟨gone, still, rfl, rfl, shuffled⟩

/-- Those who came are among those who waited, left or were refused. -/
theorem conserved_concat {departed waiting dropped known gone still came : List (Pushed α)}
    {refused : Pushed α → Bool} (conserved : (departed ++ waiting ++ dropped).Perm known)
    (split : (gone ++ still).Perm (waiting ++ came.filter fun pushed => !refused pushed)) :
    (departed ++ gone ++ still ++ (dropped ++ came.filter refused)).Perm (known ++ came) := by
  have all : (came.filter (fun pushed => !refused pushed) ++ came.filter refused).Perm came :=
    List.perm_append_comm.trans (List.filter_append_perm refused came)
  have moved := (split.append_left departed).append_right (dropped ++ came.filter refused)
  have swapped : (departed ++ (waiting ++ came.filter fun pushed => !refused pushed) ++
      (dropped ++ came.filter refused)).Perm (departed ++ waiting ++ dropped ++
        (came.filter (fun pushed => !refused pushed) ++ came.filter refused)) := by
    simp only [List.append_assoc]
    exact ((List.perm_append_comm_assoc _ _ _).append_left _).append_left _
  rw [List.append_assoc departed]
  exact moved.trans (swapped.trans (conserved.append all))

/-- The departures of one more move, told by the position that the run has reached. -/
theorem Accounts.passed_concat (accounts : ledger.Accounts start moves) (last : Move α)
    {gone : List (Departure α)}
    (passes : ∀ departure ∈ gone, start.reach moves ≤ departure.position ∧
      departure.position < start.reach (moves ++ [last])) :
    ∀ place during, (ledger.departures ++ [gone])[place]? = some during → ∀ departure ∈ during,
      start.reach ((moves ++ [last]).take place) ≤ departure.position ∧
        departure.position < start.reach ((moves ++ [last]).take (place + 1)) := by
  intro place during found departure mem
  have count := accounts.length_departures
  rcases Nat.lt_or_ge place ledger.departures.length with old | new
  · rw [List.getElem?_append_left old] at found
    rw [count] at old
    rw [List.take_append_of_le_length (Nat.le_of_lt old), List.take_append_of_le_length old]
    exact accounts.passed place during found departure mem
  · rw [List.getElem?_append_right new, List.getElem?_singleton] at found
    obtain ⟨here, same⟩ := Option.ite_none_right_eq_some.mp found
    cases same
    have final : place = moves.length := by omega
    rw [final, List.take_left, List.take_of_length_le (by simp)]
    exact passes departure mem

/-- One more move is entered into the ledger. -/
theorem Accounts.concat (accounts : ledger.Accounts start moves) (waits : start.Waits)
    (last : Move α) : ∃ ledger : Ledger α, ledger.Accounts start (moves ++ [last]) := by
  obtain ⟨first, leaving, releases, ends⟩ := reach_releases waits moves last
  -- Who leaves and who stays is found among those who waited and the one who comes.
  have kept := releases.kept
  rw [accounts.held, arriving_eq _ last moves.length, ← List.map_append] at kept
  obtain ⟨gone, still, rfl, held, split⟩ := exists_of_entries_perm kept
  have ready := releases.ready
  have numbered := releases.numbered
  rw [List.map_map] at ready numbered
  rw [List.length_map] at numbered ends
  exact ⟨⟨ledger.departures ++ [departing gone first], still⟩,
    { released := by
        have items := congrArg (List.map Pushed.item) (map_pushed_departing gone first)
        rw [List.map_map] at items
        rw [run_concat, accounts.released, ready, List.map_append, List.map_singleton]
        exact congrArg (fun last => _ ++ [last]) items.symm
      held := by rw [run_concat, held]
      distinct := (pairwise_place_pushes _).imp Nat.ne_of_lt
      conserved := by
        rw [pushes_concat, dropped_concat, departed, List.flatten_concat, List.map_append,
          map_pushed_departing]
        exact conserved_concat accounts.conserved split
      numbered := by
        rw [List.flatten_concat]
        intro departure mem
        rcases List.mem_append.mp mem with old | new
        · exact accounts.numbered departure old
        · exact numbered_departing numbered departure new
      ordered := by
        rw [List.flatten_concat, List.map_append, map_position_departing]
        refine List.pairwise_append.mpr ⟨accounts.ordered, List.pairwise_lt_range', ?_⟩
        intro earlier old later new
        obtain ⟨departure, mem, rfl⟩ := List.mem_map.mp old
        exact Nat.lt_of_lt_of_le (accounts.position_lt waits mem)
          (Nat.le_trans releases.after (List.mem_range'_1.mp new).1)
      passed := accounts.passed_concat last fun departure mem => by
        obtain ⟨from_first, to_last⟩ := mem_departing mem
        exact ⟨Nat.le_trans releases.after from_first, ends ▸ to_last⟩
      current := fun place => ofNat_reach start _
      onward := reach_take_succ waits _ }⟩

end Ledger

/-- Whatever is done to a reorder buffer, items leave it in the order of their numbers, and
every item that was pushed has left once, is still held, or was dropped when it came. -/
theorem run_accounts (next : Sequence) (capacity : Nat) (timeout : Span) (moves : List (Move α)) :
    ∃ ledger : Ledger α, ledger.Accounts (.empty next capacity timeout) moves := by
  induction moves using List.reverseRecOn with
  | nil => exact ⟨_, Ledger.accounts_nil rfl⟩
  | append_singleton moves last ih =>
    obtain ⟨ledger, accounts⟩ := ih
    exact accounts.concat (waits_empty next capacity timeout) last

end SessionLayer.ReorderBuffer
