import SessionLayer.Endpoint.Run

/-!
# The clock of a run

Some operations are given the time. A run is `Onward` from a time on if none of its
operations is given an earlier time than the one before it. Read one operation at a
time (`onward_cons`), the clock stands at the time of the last operation that was given
one (`Operation.clockAfter`).
-/

namespace SessionLayer

/-- The time that an operation is given. -/
def Operation.time? : Operation → Option Instant
  | .datagram _ _ now | .send _ _ _ now | .ban _ _ now | .sweep now => some now
  | _ => none

/-- Where the clock stands after an operation. -/
def Operation.clockAfter (operation : Operation) (clock : Instant) : Instant :=
  operation.time?.getD clock

/-- The times that operations are given, in order. -/
def times (operations : List Operation) : List Instant := operations.filterMap Operation.time?

/-- The clock stands at `clock`, and while these operations are done it does not go back. -/
def Onward (clock : Instant) (operations : List Operation) : Prop :=
  (clock :: times operations).Pairwise (· ≤ ·)

instance (clock : Instant) (operations : List Operation) :
    Decidable (Onward clock operations) :=
  inferInstanceAs (Decidable (List.Pairwise ..))

variable {clock now : Instant} {operation : Operation} {first rest : List Operation}

theorem times_cons (operation : Operation) (rest : List Operation) :
    times (operation :: rest) = operation.time?.toList ++ times rest := by
  cases h : operation.time? <;> simp [times, h]

/-- The first operation may move the clock, and the others go on from there. -/
theorem onward_cons :
    Onward clock (operation :: rest) ↔
      clock ≤ operation.clockAfter clock ∧ Onward (operation.clockAfter clock) rest := by
  cases h : operation.time? with
  | none => simp [Onward, times_cons, Operation.clockAfter, h]
  | some now =>
    simp only [Onward, times_cons, Operation.clockAfter, h, Option.toList_some,
      List.singleton_append, Option.getD_some]
    constructor
    · intro sorted
      exact ⟨List.rel_of_pairwise_cons sorted (List.mem_cons_self ..), sorted.of_cons⟩
    · rintro ⟨next, sorted⟩
      refine .cons (fun time present => ?_) sorted
      rcases List.mem_cons.mp present with rfl | later
      · exact next
      · exact Nat.le_trans next (List.rel_of_pairwise_cons sorted later)

theorem Onward.le_of_mem (onward : Onward clock first) (present : now ∈ times first) :
    clock ≤ now :=
  List.rel_of_pairwise_cons onward present

theorem times_append (before after : List Operation) :
    times (before ++ after) = times before ++ times after := List.filterMap_append

/-- Nothing later in a run is given an earlier time. -/
theorem Onward.le_of_later {early : Instant} {before : List Operation}
    (onward : Onward clock (before ++ operation :: rest)) (timed : operation.time? = some early)
    (later : now ∈ times rest) : early ≤ now := by
  have sorted : (times before ++ times (operation :: rest)).Pairwise (· ≤ ·) := by
    rw [← times_append]
    exact onward.of_cons
  rw [times_cons, timed, Option.toList_some, List.singleton_append] at sorted
  exact List.rel_of_pairwise_cons (List.pairwise_append.mp sorted).2.1 later

end SessionLayer
