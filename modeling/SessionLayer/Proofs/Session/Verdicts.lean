import SessionLayer.Proofs.Delivery.Waiting
import SessionLayer.Proofs.Session.Resent

/-!
# When a peer counts as unresponsive

The look after a session counts the pending packets that wait and asks when the first of them was
sent. The ledger of a run, in which every tracked packet keeps its place, says what that means:
`Session.answers` reads off a run which places were acknowledged, and `Session.isAcked_tally_iff`
that the ledger has marked those and no others.

So `Session.unresponsive_iff`: a peer counts as unresponsive if none of the last packets, as many
as the list has places, was acknowledged, and the first of these was sent too long ago.
-/

namespace SessionLayer

/-- The time at which a packet is first sent with a booking. -/
def Booking.firstAt? : Booking → Option Instant
  | .first _ _ now | .upkeep now _ => some now
  | .nothing | .acked _ => none

namespace Ledger

variable {ledger : Ledger} {clock : Instant}

/-- The place of the packet that a booking marks as acknowledged. -/
def marks? (ledger : Ledger) : Booking → Option Nat
  | .acked sequence => ledger.place? sequence
  | _ => none

theorem isAcked_book_iff (ledger : Ledger) (booking : Booking) (place : Nat) :
    (ledger.book booking).IsAcked place ↔
      ledger.IsAcked place ∨ ledger.marks? booking = some place := by
  cases booking with
  | nothing => simp [book, marks?]
  | first sequence datagram now => simp [book, marks?, isAcked_first_iff]
  | acked sequence => exact isAcked_acknowledge_iff ledger sequence place
  | upkeep now sequence => simp [book, marks?, isAcked_first_iff, isAcked_resend_iff]

theorem InOrder.book (order : ledger.InOrder clock) {booking : Booking}
    (present : ∀ time ∈ booking.firstAt?, time = clock) : (ledger.book booking).InOrder clock := by
  cases booking with
  | nothing => exact order
  | first sequence datagram now =>
    obtain rfl : now = clock := present now rfl
    exact order.first sequence datagram
  | acked sequence => exact order.congr (map_firstAt_acknowledge ledger sequence)
  | upkeep now sequence =>
    obtain rfl : now = clock := present now rfl
    exact (order.congr (map_resend fun _ => rfl)).first sequence _

end Ledger

namespace Session

variable {session next finish : Session} {ledger : Ledger} {clock now : Instant} {act : Act}
  {acts : List Act} {handed : List Inbound} {log : List Entry}

/-! ## Packets that were acknowledged -/

/-- An acknowledgement that an open session takes matches the first pending packet with its
number. This is the place of that packet among all that were tracked, the pending ones being the
last of them. -/
def matched? (session : Session) (tracked : Nat) : Act → Option Nat
  | .packet (.acknowledge sequence _) _ =>
    if session.state.isOpen then
      (session.pending.packets.findIdx? (·.sequence = sequence)).map
        (tracked - session.pending.packets.length + ·)
    else none
  | _ => none

/-- The places of the tracked packets that acknowledgements match while these acts are done. -/
def answers (session : Session) (ledger : Ledger) : List Act → List Nat
  | [] => []
  | act :: rest =>
    (session.matched? ledger.packets.length act).toList ++
      match session.act act with
      | .ok (_, next) => next.answers (ledger.book (session.booking act next)) rest
      | .error _ => []

/-- What an acknowledgement matches is what it marks in the ledger. -/
theorem Tallies.matched?_eq (tallies : Tallies ledger clock session) (act : Act)
    (next : Session) :
    session.matched? ledger.packets.length act = ledger.marks? (session.booking act next) := by
  have same (sequence : Sequence) :
      (session.pending.packets.findIdx? (·.sequence = sequence)).map
        (ledger.packets.length - session.pending.packets.length + ·) =
      ledger.place? sequence := by
    have held : ledger.packets.length - ledger.held.length =
        ledger.packets.length - ledger.window := by
      rw [Ledger.held, latest, List.length_drop, Nat.sub_sub_self (Nat.sub_le ..)]
    rw [tallies.pending, Ledger.pending, List.length_map, held, List.findIdx?_map, Ledger.place?]
    rfl
  -- No other act matches a packet, and none is booked as an acknowledgement.
  cases act with
  | packet packet now =>
    cases packet with
    | acknowledge sequence missing =>
      rw [matched?, booking]
      split
      · exact same sequence
      · rfl
    | _ => rfl
  | send payload reliable now =>
    cases reliable with
    | false => rfl
    | true =>
      rw [booking]
      split
      · split <;> rfl
      · rfl
  | maintain now =>
    rw [booking]
    split <;> rfl
  | _ => rfl

/-- The ledger of a run has marked the packets that the acknowledgements matched. -/
theorem isAcked_tally_iff (tallies : Tallies ledger clock session) (forward : Forward clock acts)
    (ran : session.run acts = .ok (log, finish)) (place : Nat) :
    (session.tally ledger acts).IsAcked place ↔
      ledger.IsAcked place ∨ place ∈ session.answers ledger acts := by
  -- Session and ledger agree before each act, so that what it matches is what it marks.
  induction acts generalizing session ledger clock log with
  | nil => simp [tally, answers]
  | cons act rest ih =>
    obtain ⟨handed, middle, _, returned, onward, -⟩ := run_cons_eq_ok.mp ran
    obtain ⟨later, forward⟩ := forward
    have others := ih (booked_of_act tallies later returned).tallies forward onward
    simp only [tally, answers, returned]
    rw [others, Ledger.isAcked_book_iff, tallies.matched?_eq act middle, List.mem_append,
      Option.mem_toList, or_assoc]

/-! ## When packets were first sent -/

/-- What an act sends for the first time it sends at its own time. -/
theorem firstAt?_booking (session : Session) (act : Act) (next : Session) (clock : Instant) :
    ∀ time ∈ (session.booking act next).firstAt?, time = act.clockAfter clock := by
  intro time given
  cases act with
  | packet packet now =>
    cases packet with
    | acknowledge sequence missing =>
      rw [booking] at given
      split at given <;> cases given
    | _ => cases given
  | send payload reliable now =>
    cases reliable with
    | false => cases given
    | true =>
      rw [booking] at given
      split at given
      · split at given <;> cases given
        rfl
      · cases given
  | ping now =>
    cases given
    rfl
  | maintain now =>
    rw [booking] at given
    split at given <;> cases given
    rfl
  | _ => cases given

theorem inOrder_tally (order : ledger.InOrder clock) (forward : Forward clock acts)
    (ran : session.run acts = .ok (log, finish)) :
    (session.tally ledger acts).InOrder (clockAfter clock acts) := by
  induction acts generalizing session ledger clock log with
  | nil => exact order
  | cons act rest ih =>
    obtain ⟨handed, middle, _, returned, onward, -⟩ := run_cons_eq_ok.mp ran
    obtain ⟨later, forward⟩ := forward
    rw [tally, returned]
    exact ih ((order.mono later).book (firstAt?_booking session act middle clock)) forward onward

/-! ## Verdicts -/

theorem settings_act (returned : session.act act = .ok (handed, next)) :
    next.settings = session.settings := by
  rcases heard_or_kept returned with ⟨packet, now, -, heard⟩ | ⟨-, -, -, settings⟩
  · have same := (session.samePeer_handlePacket packet now).settings
    rwa [heard] at same
  · exact settings

theorem settings_run (ran : session.run acts = .ok (log, finish)) :
    finish.settings = session.settings := by
  induction acts generalizing session log with
  | nil =>
    cases ran
    rfl
  | cons act rest ih =>
    obtain ⟨handed, middle, _, returned, onward, -⟩ := run_cons_eq_ok.mp ran
    exact (ih onward).trans (settings_act returned)

/-- What a session finds is what its ledger says of the last packets. -/
theorem Tallies.isUnresponsive_iff (tallies : Tallies ledger clock session)
    (order : ledger.InOrder clock) :
    session.isUnresponsive now = true ↔
      ledger.window ≤ ledger.packets.length ∧
        (∀ place, ledger.packets.length - ledger.window ≤ place → ¬ ledger.IsAcked place) ∧
        ∃ first, ledger.packets[ledger.packets.length - ledger.window]? = some first ∧
          first.firstAt + session.settings.unresponsiveAfter < now := by
  have longAgo (sent : Instant) : session.settings.unresponsiveAfter < now - sent ↔
      sent + session.settings.unresponsiveAfter < now := by
    rw [Nat.lt_sub_iff_add_lt, Nat.add_comm]
  have capacity : session.pending.capacity = ledger.window := by
    rw [tallies.pending]
    rfl
  have count : session.unackedCount = ledger.pending.unacked.length := by
    rw [unackedCount, tallies.pending]
  rw [isUnresponsive, Bool.and_eq_true, decide_eq_true_eq, capacity, count, tallies.pending,
    Ledger.window_le_unacked_iff, and_assoc, ← Ledger.forall_held_iff]
  refine and_congr_right fun _ => and_congr_right fun waiting => ?_
  simp only [Ledger.oldestUnackedAt_pending order waiting, Option.any_map, Option.any_eq_true,
    decide_eq_true_eq, longAgo]

/-- An open session whose client is known reports what it finds. -/
theorem exists_unresponsive_iff (opened : session.state.isOpen = true)
    (known : session.isIdentified = true) (now : Instant) :
    (∃ upkeep next, session.maintain now = .ok (upkeep, next) ∧ upkeep.health = .unresponsive) ↔
      session.isUnresponsive now = true := by
  constructor
  · rintro ⟨upkeep, next, returned, silent⟩
    cases looking returned with
    | shut closed => cases silent
    | waiting _ _ _ | idle _ _ _ => cases silent
    | unresponsive _ _ stalled => exact stalled
    | keptUp _ _ _ _ _ => cases silent
  · intro stalled
    refine ⟨.only .unresponsive, session, ?_, rfl⟩
    rw [maintain, opened, known, stalled]
    rfl

/-- A look that finds the peer unresponsive does nothing else. -/
theorem Looking.eq_of_unresponsive {upkeep : Upkeep} (looking : session.Looking now upkeep next)
    (silent : upkeep.health = .unresponsive) : upkeep = .only .unresponsive ∧ next = session := by
  cases looking with
  | unresponsive _ _ _ => exact ⟨rfl, rfl⟩
  | _ => cases silent

/-- Take any run from the start in which the clock does not go back, and at its end an open
session whose client is known. Its pending packets are the last ones of the ledger, and every
place that an acknowledgement matched is a place of the ledger. A look after the session reports
the peer as unresponsive if at least as many packets were tracked as the list has places, none of
the last of them was acknowledged, and the first of these was first sent longer ago than a peer
may be silent. So whatever acknowledgement matched one of these packets rules that out. The
report leaves the session as it was. -/
theorem unresponsive_iff {client : ClientId} {remote : Address} {settings : SessionSettings}
    {flood : FloodSettings} {fresh : Session} {start : Instant} {matched : List Nat}
    (made : create client remote settings flood start = .ok fresh)
    (forward : Forward start acts) (ran : fresh.run acts = .ok (log, session))
    (opened : session.state.isOpen = true) (known : session.isIdentified = true)
    (tallied : fresh.tally (.blank settings.pendingCapacity settings.retransmitAfter) acts =
      ledger)
    (answered : fresh.answers (.blank settings.pendingCapacity settings.retransmitAfter) acts =
      matched) (now : Instant) :
    session.pending = ⟨settings.pendingCapacity,
        (latest settings.pendingCapacity ledger.packets).map Tracked.entry⟩ ∧
      (∀ place ∈ matched, place < ledger.packets.length) ∧
      ((∃ upkeep next, session.maintain now = .ok (upkeep, next) ∧
          upkeep.health = .unresponsive) ↔
        settings.pendingCapacity ≤ ledger.packets.length ∧
          (∀ place, ledger.packets.length - settings.pendingCapacity ≤ place →
            place ∉ matched) ∧
          ∃ first, ledger.packets[ledger.packets.length - settings.pendingCapacity]? =
            some first ∧ first.firstAt + settings.unresponsiveAfter < now) ∧
      (∀ place ∈ matched, ledger.packets.length - settings.pendingCapacity ≤ place →
        ∀ upkeep next, session.maintain now = .ok (upkeep, next) →
          upkeep.health ≠ .unresponsive) ∧
      ∀ upkeep next, session.maintain now = .ok (upkeep, next) →
        upkeep.health = .unresponsive → upkeep = .only .unresponsive ∧ next = session := by
  subst tallied answered
  obtain ⟨tallies, -⟩ := tallies_run (tallies_create made) nofun forward ran
  have order := inOrder_tally (Ledger.inOrder_blank settings.pendingCapacity
    settings.retransmitAfter start) forward ran
  have window : _ = settings.pendingCapacity := (becomes_tally fresh (.blank
    settings.pendingCapacity settings.retransmitAfter) acts).window
  have usual : session.settings = settings := by
    rw [settings_run ran, create_eq_ok made]
  have marked (place : Nat) := isAcked_tally_iff (tallies_create made) forward ran place
  simp only [Ledger.not_isAcked_blank, false_or] at marked
  have verdict := (exists_unresponsive_iff opened known now).trans
    (tallies.isUnresponsive_iff order)
  simp only [window, usual, marked] at verdict
  refine ⟨?_, fun place among => ((marked place).mpr among).lt, verdict,
    fun place among last upkeep next returned silent => ?_,
    fun upkeep next returned => (looking returned).eq_of_unresponsive⟩
  · rw [tallies.pending, Ledger.pending, Ledger.held, window]
  · exact (verdict.mp ⟨upkeep, next, returned, silent⟩).2.1 place last among

/-- Three payloads, of which the first is acknowledged. A look after the session sends the second
again, and a ping. -/
def silentSince : List Act :=
  [.packet (.hello 0 (.brief default "")) 0, .send ⟨[]⟩ true 0, .packet (.acknowledge 1 255) 0,
    .send ⟨[]⟩ true 10, .send ⟨[]⟩ true 20, .maintain 1015]

/-- The last three packets wait. That the first of them was sent again does not put off the
time at which the peer counts as unresponsive. -/
theorem unresponsive_iff_silentSince :
    ∃ fresh log session,
      create ⟨1⟩ default { pendingCapacity := 3, retransmitAfterMs := 1, unresponsiveAfterMs := 2 }
        {} 0 = .ok fresh ∧
      Forward 0 silentSince ∧ fresh.run silentSince = .ok (log, session) ∧
      session.state.isOpen = true ∧ session.isIdentified = true ∧
      fresh.tally (.blank 3 1000) silentSince = ⟨3, 1000,
        [⟨1, [1, 0, 1], 0, [], true⟩, ⟨2, [1, 0, 2], 10, [1015], false⟩,
          ⟨3, [1, 0, 3], 20, [], false⟩, ⟨4, [12, 0, 4], 1015, [], false⟩]⟩ ∧
      fresh.answers (.blank 3 1000) silentSince = [0] ∧
      session.maintain 2011 = .ok (.only .unresponsive, session) ∧
      ¬ ∃ upkeep next, session.maintain 2010 = .ok (upkeep, next) ∧
        upkeep.health = .unresponsive := by
  obtain ⟨fresh, made⟩ := Halt.exists_of_isSome (create ⟨1⟩ default
    { pendingCapacity := 3, retransmitAfterMs := 1, unresponsiveAfterMs := 2 } {} 0)
    (by decide +kernel)
  have same := create_eq_ok made
  have seen : (fresh.run silentSince).toOption.any (fun result =>
      result.2.state.isOpen && result.2.isIdentified) = true := by
    rw [same]
    decide +kernel
  obtain ⟨⟨log, session⟩, ran, seen⟩ := Halt.exists_of_any seen
  obtain ⟨opened, known⟩ := (Bool.and_eq_true _ _).mp seen
  have tallied : fresh.tally (.blank 3 1000) silentSince = ⟨3, 1000,
      [⟨1, [1, 0, 1], 0, [], true⟩, ⟨2, [1, 0, 2], 10, [1015], false⟩,
        ⟨3, [1, 0, 3], 20, [], false⟩, ⟨4, [12, 0, 4], 1015, [], false⟩]⟩ := by
    rw [same]
    decide +kernel
  have answered : fresh.answers (.blank 3 1000) silentSince = [0] := by
    rw [same]
    decide +kernel
  have forward : Forward 0 silentSince := by decide +kernel
  have verdict (now : Instant) := unresponsive_iff made forward ran opened known tallied answered
    now
  refine ⟨fresh, log, session, made, forward, ran, opened, known, tallied, answered, ?_, ?_⟩
  · have waiting (place : Nat) (last : 4 - 3 ≤ place) : place ∉ [0] := by
      rw [List.mem_singleton]
      exact Nat.ne_of_gt last
    obtain ⟨-, -, reported, -, untouched⟩ := verdict 2011
    obtain ⟨upkeep, next, returned, silent⟩ :=
      reported.mpr ⟨by decide, waiting, _, rfl, by decide⟩
    obtain ⟨rfl, rfl⟩ := untouched upkeep next returned silent
    exact returned
  · obtain ⟨-, -, reported, -, -⟩ := verdict 2010
    intro early
    obtain ⟨-, -, first, found, past⟩ := reported.mp early
    cases found
    exact absurd past (by decide)

end Session

end SessionLayer
