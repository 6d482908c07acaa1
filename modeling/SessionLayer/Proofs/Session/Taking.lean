import SessionLayer.Proofs.Delivery.Release
import SessionLayer.Proofs.Session.Bounded
import SessionLayer.Proofs.Session.Refusals

/-!
# The number that is taken next

A session takes the first number on the ring that no waiting packet has
(`PendingList.IsFirstFree`), and it stops for good where there is none. A session with fewer
places than there are numbers always finds one (`Session.act_ne_exhausted`).
-/

namespace SessionLayer

namespace PendingList

open Sequence

variable {list : PendingList} {sequence free : Sequence} {steps : Nat}

/-- The number is free, and on the way around the ring from the one behind `sequence` no other
free number is reached before it. -/
structure IsFirstFree (list : PendingList) (sequence free : Sequence) : Prop where
  unused : list.isOutstanding free = false
  least : ∀ other, list.isOutstanding other = false →
    (distance (sequence + 1) free).toNat ≤ (distance (sequence + 1) other).toNat

/-- The number that is reached with one step more. -/
theorem toNat_distance_ahead (sequence : Sequence) (short : steps < 65536) :
    (distance (sequence + 1) (sequence + UInt16.ofNat (steps + 1))).toNat = steps := by
  have behind : sequence + UInt16.ofNat (steps + 1) = sequence + 1 + UInt16.ofNat steps := by
    rw [Nat.add_comm, UInt16.ofNat_add, UInt16.ofNat_one, UInt16.add_assoc]
  rw [behind, toNat_distance_self_add _ short]

theorem Search.isFirstFree (search : list.Search sequence steps free) :
    list.IsFirstFree sequence free := by
  have ring := search.steps_le_ring
  obtain ⟨before, rfl, rfl, unused, passed⟩ := search.passes
  refine ⟨unused, fun other vacant => ?_⟩
  obtain ⟨ahead, within, rfl⟩ := exists_ahead sequence other
  rw [toNat_distance_ahead sequence ring, toNat_distance_ahead sequence within]
  refine Nat.le_of_not_lt fun nearer => ?_
  rw [passed ahead nearer] at vacant
  cases vacant

theorem IsFirstFree.unique {other : Sequence} (first : list.IsFirstFree sequence free)
    (second : list.IsFirstFree sequence other) : free = other := by
  have same := Nat.le_antisymm (first.least other second.unused) (second.least free first.unused)
  rw [← add_distance (sequence + 1) free, UInt16.toNat_inj.mp same, add_distance]

theorem exists_freeAfter_iff :
    (∃ free, list.freeAfter sequence = .ok free) ↔
      ∃ number, list.isOutstanding number = false := by
  constructor
  · rintro ⟨free, found⟩
    exact ⟨free, not_outstanding_of_freeAfter found⟩
  · rintro ⟨number, unused⟩
    refine Halt.exists_eq_ok_iff.mpr fun halt fails => ?_
    rw [(freeAfter_eq_error_iff.mp fails).2 number] at unused
    cases unused

theorem freeAfter_eq_ok_iff_isFirstFree :
    list.freeAfter sequence = .ok free ↔ list.IsFirstFree sequence free := by
  constructor
  · intro found
    obtain ⟨_, search⟩ := freeAfter_eq_ok_iff.mp found
    exact search.isFirstFree
  · intro first
    obtain ⟨other, found⟩ := exists_freeAfter_iff.mpr ⟨free, first.unused⟩
    obtain ⟨_, search⟩ := freeAfter_eq_ok_iff.mp found
    rw [first.unique search.isFirstFree, found]

end PendingList

namespace Session

variable {session next : Session} {act : Act} {number : Sequence} {now : Instant}

theorem takeSequence_eq_ok_iff :
    session.takeSequence = .ok (number, next) ↔
      session.pending.freeAfter session.outgoingSequence = .ok number ∧
        next = { session with outgoingSequence := number } := by
  simp only [takeSequence, Halt.bind_eq_ok, Halt.pure_eq_ok, Prod.mk.injEq]
  constructor
  · rintro ⟨_, free, rfl, rfl⟩
    exact ⟨free, rfl⟩
  · rintro ⟨free, rfl⟩
    exact ⟨number, free, rfl, rfl⟩

theorem takeSequence_eq_error {halt : Halt} (fails : session.takeSequence = .error halt) :
    ∀ number, session.pending.isOutstanding number = true := by
  rcases Halt.bind_eq_error.mp fails with none | ⟨_, _, returned⟩
  · exact (PendingList.freeAfter_eq_error_iff.mp none).2
  · cases returned

/-! ## Acts that look for a number -/

theorem taken_of_send {payload : Payload} {reliable : Bool} {halt : Halt}
    (fails : session.send payload reliable now = .error halt) :
    ∀ number, session.pending.isOutstanding number = true := by
  rw [send] at fails
  split at fails
  · cases fails
  split at fails
  · rcases Halt.bind_eq_error.mp fails with none | ⟨_, _, returned⟩
    · exact takeSequence_eq_error none
    · dsimp only at returned
      split at returned <;> cases returned
  · cases fails

theorem taken_of_maintain (fails : session.maintain now = .error .sequencesExhausted) :
    ∀ number, session.pending.isOutstanding number = true := by
  rw [maintain] at fails
  split at fails
  · cases fails
  split at fails
  · cases fails
  split at fails
  · cases fails
  rw [keepUp] at fails
  dsimp only at fails
  split at fails
  · cases fails
  rcases Halt.bind_eq_error.mp fails with none | ⟨_, _, returned⟩
  · intro number
    have taken := (sendPing_eq_error_iff.mp none).2 number
    exact (PendingList.isOutstanding_resendOverdue _ now _ number).symm.trans taken
  · cases returned

/-- Only where every number is taken an act looks for one in vain. -/
theorem taken_of_act (fails : session.act act = .error .sequencesExhausted) :
    ∀ number, session.pending.isOutstanding number = true := by
  cases act with
  | check trafficClass now =>
    rcases Halt.bind_eq_error.mp fails with none | ⟨_, _, returned⟩
    · rw [checkRate] at none
      dsimp only at none
      split at none <;> cases none
    · cases returned
  | send payload reliable now =>
    rcases Halt.bind_eq_error.mp fails with none | ⟨_, _, returned⟩
    · exact taken_of_send none
    · cases returned
  | ping now =>
    rcases Halt.bind_eq_error.mp fails with none | ⟨_, _, returned⟩
    · exact (sendPing_eq_error_iff.mp none).2
    · cases returned
  | maintain now =>
    rcases Halt.bind_eq_error.mp fails with none | ⟨_, _, returned⟩
    · exact taken_of_maintain none
    · cases returned
  | packet packet now => cases fails
  | disconnect farewell => cases fails
  | markDisconnected | takeOutgoing | setRoom room | clearRoom => cases fails

/-- With fewer places than numbers there is always a number. -/
theorem act_ne_exhausted (few : session.pending.unacked.length < 65536) (act : Act) :
    session.act act ≠ .error .sequencesExhausted := by
  intro fails
  obtain ⟨free, found⟩ := session.pending.exists_freeAfter 0 few
  have taken := taken_of_act fails free
  rw [PendingList.not_outstanding_of_freeAfter found] at taken
  cases taken

/-- A session that was made with fewer places than there are numbers has more numbers than
waiting packets. -/
theorem few_unacked {client : ClientId} {remote : Address} {settings : SessionSettings}
    {flood : FloodSettings} {start : Instant} {fresh : Session} {acts : List Act}
    {log : List Entry} (made : create client remote settings flood start = .ok fresh)
    (small : settings.pendingCapacity ≤ 65535) (ran : fresh.run acts = .ok (log, session)) :
    session.pending.unacked.length < 65536 := by
  have few := ((bounded_create made).of_run ran).pending.few
  have waiting := session.pending.length_unacked_le
  omega

/-- A session takes a number exactly if one is free, and that is the first free one behind the
last that was taken, where the search ends. A session that was made with fewer places for pending
packets than there are numbers takes one after at most one step more than packets wait, whatever
was done to it, and nothing that is done to it ever looks for a number in vain. -/
theorem takes_first_free {client : ClientId} {remote : Address} {settings : SessionSettings}
    {flood : FloodSettings} {start : Instant} {fresh : Session} {acts : List Act}
    {log : List Entry} (session : Session) :
    ((∃ number next, session.takeSequence = .ok (number, next)) ↔
        ∃ number, session.pending.isOutstanding number = false) ∧
      (∀ number next, session.takeSequence = .ok (number, next) ↔
        session.pending.IsFirstFree session.outgoingSequence number ∧
          next = { session with outgoingSequence := number }) ∧
      (∀ number, session.pending.IsFirstFree session.outgoingSequence number ↔
        ∃ steps, session.pending.Search session.outgoingSequence steps number) ∧
      (create client remote settings flood start = .ok fresh → settings.pendingCapacity ≤ 65535 →
        fresh.run acts = .ok (log, session) →
        (∃ number steps, steps ≤ session.unackedCount + 1 ∧
          session.pending.Search session.outgoingSequence steps number ∧
          session.takeSequence = .ok (number, { session with outgoingSequence := number })) ∧
        ∀ act, session.act act ≠ .error .sequencesExhausted) := by
  refine ⟨?_, fun number next => ?_, fun number => ?_, fun made small ran => ⟨?_, ?_⟩⟩
  · simp only [takeSequence_eq_ok_iff, exists_and_left, exists_eq, and_true,
      PendingList.exists_freeAfter_iff]
  · rw [takeSequence_eq_ok_iff, PendingList.freeAfter_eq_ok_iff_isFirstFree]
  · rw [← PendingList.freeAfter_eq_ok_iff_isFirstFree, PendingList.freeAfter_eq_ok_iff]
  · obtain ⟨free, found⟩ := session.pending.exists_freeAfter session.outgoingSequence
      (few_unacked made small ran)
    obtain ⟨steps, search⟩ := PendingList.freeAfter_eq_ok_iff.mp found
    exact ⟨free, steps, search.steps_le, search, takeSequence_of_free found⟩
  · exact act_ne_exhausted (few_unacked made small ran)

theorem takes_first_free_crowdedLists :
    ∃ fresh log session number steps next,
      create ⟨1⟩ default { pendingCapacity := 3, receivedHistory := 1 } {} 0 = .ok fresh ∧
      fresh.run crowdedLists = .ok (log, session) ∧ steps ≤ session.unackedCount + 1 ∧
      session.pending.Search session.outgoingSequence steps number ∧
      session.takeSequence = .ok (number, next) ∧
      session.pending.IsFirstFree session.outgoingSequence number ∧
      ∀ act, session.act act ≠ .error .sequencesExhausted := by
  obtain ⟨fresh, made⟩ := Halt.exists_of_isSome
    (create ⟨1⟩ default { pendingCapacity := 3, receivedHistory := 1 } {} 0) (by decide +kernel)
  obtain ⟨⟨log, session⟩, ran⟩ := Halt.exists_of_isSome (fresh.run crowdedLists) (by
    rw [create_eq_ok made]
    decide +kernel)
  obtain ⟨-, first, -, reached⟩ := takes_first_free session
  obtain ⟨⟨number, steps, few, search, taken⟩, goesOn⟩ := reached made (by decide) ran
  exact ⟨fresh, log, session, number, steps, _, made, ran, few, search, taken,
    ((first number _).mp taken).1, goesOn⟩

end Session

end SessionLayer
