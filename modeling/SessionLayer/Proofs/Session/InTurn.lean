import SessionLayer.Proofs.Delivery.Free
import SessionLayer.Proofs.Delivery.Pending
import SessionLayer.Proofs.Session.Accepted
import SessionLayer.Proofs.Session.Ordered

/-!
# Payloads that come in turn

Payloads that come one after the other are handed up one after the other, each once, whether
or not the session waits for gaps: `Session.in_turn_handed`. This goes on through every turn
of the ring, since the history has forgotten a number before it comes again (`Session.Ready`
holds of the next number).

In between the session may be looked after. Nothing is held then that could be released, a
free number for the ping is always found, and no packet is sent again more often than there
are places in the list of pending packets (`Session.Tended`). Only the count of all packets
that were sent again could fill its sixty-four bits.
-/

namespace SessionLayer.Session

/-- Acts that bring these payloads in turn, numbered from `next` on. The last number may come
again before the next one does, and the session may be looked after at any time. -/
inductive InTurn : Sequence → List Act → List Payload → Prop
  | done (next : Sequence) : InTurn next [] []
  | new {next : Sequence} {acts : List Act} {payloads : List Payload} (payload : Payload)
      (now : Instant) :
    InTurn (next + 1) acts payloads →
    InTurn next (.packet (.reliable next payload) now :: acts) (payload :: payloads)
  | again {next : Sequence} {acts : List Act} {payloads : List Payload} (payload : Payload)
      (now : Instant) :
    InTurn next acts payloads →
    InTurn next (.packet (.reliable (next - 1) payload) now :: acts) payloads
  | upkeep {next : Sequence} {acts : List Act} {payloads : List Payload} (now : Instant) :
    InTurn next acts payloads → InTurn next (.maintain now :: acts) payloads

/-- Whether the session is looked after. -/
def Act.isUpkeep : Act → Bool
  | .maintain _ => true
  | _ => false

variable {session : Session} {next : Sequence}

/-! ## Packets -/

/-- The session waits for this number, and it remembers the one before as the last of a row
that does not go around the ring. -/
structure Ready (next : Sequence) (session : Session) : Prop where
  isOpen : session.state.isOpen = true
  known : session.isIdentified = true
  deep : 1 ≤ session.history.capacity
  short : session.history.capacity < 65536
  trails : session.history.Trails next
  last : next - 1 ∈ session.history.recent
  expected : session.settings.messageOrdering = true → session.reorder.next = next
  holding : session.reorder.held = .empty

/-- The history that has accepted the next number is ready for the one after it. -/
theorem Ready.accept (ready : session.Ready next) :
    (session.history.accept next).1 = true ∧
      1 ≤ (session.history.accept next).2.capacity ∧
      (session.history.accept next).2.capacity < 65536 ∧
      (session.history.accept next).2.Trails (next + 1) ∧
      next + 1 - 1 ∈ (session.history.accept next).2.recent := by
  obtain ⟨new, trails, same⟩ := ready.trails.accept ready.short
  refine ⟨new, same ▸ ready.deep, same ▸ ready.short, trails, ?_⟩
  rw [UInt16.add_sub_cancel]
  exact ReceivedHistory.mem_accept ready.deep new

/-- The next payload is handed up. -/
theorem Ready.onReliable (ready : session.Ready next) (payload : Payload) (now : Instant) :
    (session.onReliable next payload now).1 = [.deliver payload true] ∧
      (session.onReliable next payload now).2.Ready (next + 1) := by
  obtain ⟨new, deep, short, trails, last⟩ := ready.accept
  cases ordered : session.settings.messageOrdering with
  | true =>
    have pushed := ReorderBuffer.push_next payload now ready.holding
    rw [ready.expected ordered] at pushed
    rw [onReliable_of_new ready.known ordered new, pushed]
    exact ⟨rfl, ready.isOpen, ready.known, deep, short, trails, last, fun _ => rfl,
      ready.holding⟩
  | false =>
    have unknown : next ∉ session.history.recent := ReceivedHistory.accept_iff_notMem.mp new
    rw [onReliable_of_unordered ready.known ordered, if_neg unknown]
    exact ⟨rfl, ready.isOpen, ready.known, deep, short, trails, last,
      fun waits => absurd (ordered.symm.trans waits) Bool.false_ne_true, ready.holding⟩

/-- The number before is known, and nothing changes. -/
theorem Ready.onReliable_again (ready : session.Ready next) (payload : Payload) (now : Instant) :
    session.onReliable (next - 1) payload now = ([], session.postAck (next - 1)) := by
  have history : (session.postAck (next - 1)).history = session.history := rfl
  simp only [Session.onReliable, ready.known, Bool.not_true, Bool.false_eq_true, if_false, history,
    ReceivedHistory.accept_of_mem ready.last, Bool.not_false, if_true]
  rfl

theorem Ready.payload (ready : session.Ready next) (payload : Payload) (now : Instant) :
    (session.handlePacket (.reliable next payload) now).1 = [.deliver payload true] ∧
      (session.handlePacket (.reliable next payload) now).2.Ready (next + 1) := by
  have touched : ({ session with lastReceivedAt := now } : Session).Ready next := { ready with }
  rw [handlePacket, if_pos ready.isOpen]
  exact touched.onReliable payload now

theorem Ready.repeated (ready : session.Ready next) (payload : Payload) (now : Instant) :
    (session.handlePacket (.reliable (next - 1) payload) now).1 = [] ∧
      (session.handlePacket (.reliable (next - 1) payload) now).2.Ready next := by
  have touched : ({ session with lastReceivedAt := now } : Session).Ready next := { ready with }
  rw [handlePacket, if_pos ready.isOpen, onPacket, touched.onReliable_again payload now]
  exact ⟨rfl, { touched with }⟩

/-- A greeting makes a new session ready for the number after its own. -/
theorem ready_of_greeting {client : ClientId} {remote : Address} {settings : SessionSettings}
    {flood : FloodSettings} {start : Instant}
    (made : create client remote settings flood start = .ok session)
    (deep : 1 ≤ settings.receivedHistory) (short : settings.receivedHistory ≤ 65535)
    (number : Sequence) (greeting : Hello) (now : Instant) :
    (session.handlePacket (.hello number greeting) now).1 = [.identified] ∧
      (session.handlePacket (.hello number greeting) now).2.Ready (number + 1) := by
  rw [create_eq_ok made]
  obtain ⟨new, trails, same⟩ :=
    (ReceivedHistory.trails_empty settings.receivedHistory number).accept
      (Nat.lt_succ_of_le short)
  have last : number ∈ ((ReceivedHistory.empty settings.receivedHistory).accept number).2.recent :=
    ReceivedHistory.mem_accept deep new
  refine ⟨rfl, rfl, rfl, same ▸ deep, same ▸ Nat.lt_succ_of_le short, trails, ?_, fun _ => rfl, rfl⟩
  rw [UInt16.add_sub_cancel]
  exact last

/-! ## Upkeep -/

/-- Every counter of the session has room but the total of packets that were sent again,
which is at most `spent`. -/
structure Tended (places spent : Nat) (session : Session) : Prop where
  sized : session.pending.capacity = places
  few : session.pending.packets.length ≤ places
  aged : PendingList.Aged session.pending.packets
  reliable : session.limiter.reliable.count < UInt32.size
  unreliable : session.limiter.unreliable.count < UInt32.size
  total : session.totalResends ≤ spent

variable {places spent : Nat}

theorem tended_create {client : ClientId} {remote : Address} {settings : SessionSettings}
    {flood : FloodSettings} {now : Instant}
    (made : create client remote settings flood now = .ok session) :
    session.Tended settings.pendingCapacity 0 := by
  have room : 0 < UInt32.size := by decide
  rw [create_eq_ok made]
  exact ⟨rfl, Nat.zero_le _, trivial, room, room, Nat.le_refl 0⟩

theorem Tended.onReliable (tended : session.Tended places spent) (sequence : Sequence)
    (payload : Payload) (now : Instant) :
    (session.handlePacket (.reliable sequence payload) now).2.Tended places spent := by
  simp only [handlePacket, onPacket, Session.onReliable]
  split
  · split
    · exact { tended with }
    split
    · exact { tended with }
    split
    · exact { tended with }
    · exact { tended with }
  · exact tended

theorem Tended.onHello (tended : session.Tended places spent) (sequence : Sequence)
    (greeting : Hello) (now : Instant) :
    (session.handlePacket (.hello sequence greeting) now).2.Tended places spent := by
  simp only [handlePacket, onPacket, Session.onHello]
  split
  · split
    · exact { tended with }
    · exact { tended with }
  · exact tended

/-- Sending the overdue packets again adds at most one for every place to the total, and no
other counter is near its end. -/
theorem Tended.resendOverdue (tended : session.Tended places spent) (small : places ≤ 65535)
    (now : Instant) :
    (session.resendOverdue now).2.totalResends ≤ spent + places ∧
      (session.resendOverdue now).2.countersFit =
        decide ((session.resendOverdue now).2.totalResends < UInt64.size) := by
  refine ⟨?_, ?_⟩
  · have some : (session.pending.overdue now session.settings.retransmitAfter).length ≤
        session.pending.packets.length := List.length_filter_le _ _
    exact Nat.add_le_add tended.total (Nat.le_trans some tended.few)
  · have rarely : (session.resendOverdue now).2.pending.packets.all
        (fun packet => packet.resends < UInt32.size) = true := by
      rw [List.all_eq_true]
      intro packet present
      obtain ⟨before, among, rfl⟩ := List.mem_map.mp present
      have once := PendingList.resends_resendOverdue_le now session.settings.retransmitAfter before
      have least := tended.aged.resends_lt before among
      have few := tended.few
      rw [decide_eq_true_eq]
      show _ < 4294967296
      omega
    have limiter : (session.resendOverdue now).2.limiter = session.limiter := rfl
    rw [countersFit, rarely, limiter, decide_eq_true tended.reliable,
      decide_eq_true tended.unreliable, Bool.and_true, Bool.and_true, Bool.true_and]

/-- A number for the ping is always found. -/
theorem Tended.exists_free (tended : session.Tended places spent) (small : places ≤ 65535)
    (now : Instant) :
    ∃ sequence, (session.resendOverdue now).2.pending.freeAfter
      (session.resendOverdue now).2.outgoingSequence = .ok sequence := by
  have waiting : (session.resendOverdue now).2.pending.unacked.length ≤
      session.pending.packets.length := by
    rw [← PendingList.length_resendOverdue session.pending now session.settings.retransmitAfter]
    exact PendingList.length_unacked_le _
  have few := tended.few
  exact PendingList.exists_freeAfter _ _ (by omega)

/-- The ping that goes out after them pushes the oldest packet out of a full list. -/
theorem Tended.ping (tended : session.Tended places spent) (small : places ≤ 65535)
    (sequence : Sequence) (datagram : Bytes) (now : Instant) :
    ({ (session.resendOverdue now).2 with outgoingSequence := sequence }.track sequence datagram
      now).Tended places (spent + places) := by
  have within := tended.few
  rw [← tended.sized, ← PendingList.length_resendOverdue session.pending now
    session.settings.retransmitAfter] at within
  exact
    { sized := (PendingList.capacity_record _ _ _ _).trans tended.sized
      few := tended.sized ▸ PendingList.length_record_le within _ _ _
      aged := tended.aged.record now session.settings.retransmitAfter _ _
      reliable := tended.reliable
      unreliable := tended.unreliable
      total := (tended.resendOverdue small now).1 }

/-- Where nothing is held, no gap is given up. -/
theorem expireGaps_of_empty (holding : session.reorder.held = .empty) (now : Instant) :
    session.expireGaps now = ([], session) := by
  have fresh : session.reorder.isStale now = false := by rw [ReorderBuffer.isStale, holding]; rfl
  have kept : session.reorder.expire now = ([], session.reorder) := by
    rw [ReorderBuffer.expire, fresh]
    rfl
  rw [expireGaps, kept]
  split <;> rfl

/-- Looking after a session whose peer is there releases nothing, and the session goes on,
unless the total of packets that were sent again is full. -/
theorem Ready.keepUp (ready : session.Ready next) (tended : session.Tended places spent)
    (small : places ≤ 65535) (now : Instant) :
    (∃ resent kept, session.keepUp now = .ok (⟨.alive, [], resent⟩, kept) ∧ kept.Ready next ∧
        kept.Tended places (spent + places)) ∨
      (session.keepUp now = .error .counterOverflow ∧ UInt64.size ≤ spent + places) := by
  obtain ⟨total, fits⟩ := tended.resendOverdue small now
  by_cases room : (session.resendOverdue now).2.totalResends < UInt64.size
  · left
    rw [decide_eq_true room] at fits
    obtain ⟨sequence, free⟩ := tended.exists_free small now
    refine ⟨(session.resendOverdue now).1, _, ?_, ?_,
      tended.ping small sequence (PacketKind.ping.tag :: Wire.u16be sequence) now⟩
    · rw [Session.keepUp]
      simp only [fits, Bool.not_true, Bool.false_eq_true, if_false, sendPing_of_free free now]
      simp only [bind, Except.bind]
      rw [expireGaps_of_empty (by exact ready.holding) now]
      rfl
    · exact { ready with }
  · right
    rw [decide_eq_false room] at fits
    refine ⟨?_, Nat.le_trans (Nat.le_of_not_lt room) total⟩
    rw [Session.keepUp]
    simp only [fits, Bool.not_false, if_true]
    rfl

theorem Ready.maintain (ready : session.Ready next) (tended : session.Tended places spent)
    (small : places ≤ 65535) (now : Instant) :
    (∃ kept, session.act (.maintain now) = .ok ([], kept) ∧ kept.Ready next ∧
        kept.Tended places (spent + places)) ∨
      (session.act (.maintain now) = .error .counterOverflow ∧
        UInt64.size ≤ spent + places) := by
  rw [act, Session.maintain]
  simp only [ready.isOpen, ready.known, Bool.not_true, Bool.false_eq_true, if_false]
  split
  · exact .inl ⟨session, rfl, ready,
      { tended with total := Nat.le_trans tended.total (Nat.le_add_right _ _) }⟩
  · rcases ready.keepUp tended small now with
      ⟨resent, kept, returned, goesOn⟩ | ⟨full, many⟩
    · rw [returned]
      exact .inl ⟨kept, rfl, goesOn⟩
    · rw [full]
      exact .inr ⟨rfl, many⟩

/-! ## Runs -/

/-- A run that hands up this and no more, unless more than `spent` packets were to be sent
again. -/
def HandsUp (session : Session) (acts : List Act) (spent : Nat) (handed : List Inbound) : Prop :=
  (∃ log finish, session.run acts = .ok (log, finish) ∧ handedUp log = handed) ∨
    (session.run acts = .error .counterOverflow ∧ UInt64.size ≤ spent)

theorem HandsUp.cons {middle : Session} {act : Act} {acts : List Act} {first later : List Inbound}
    (returned : session.act act = .ok (first, middle)) (rest : middle.HandsUp acts spent later) :
    session.HandsUp (act :: acts) spent (first ++ later) := by
  rcases rest with ⟨log, finish, ran, handed⟩ | ⟨stops, full⟩
  · refine .inl ⟨⟨act, first⟩ :: log, finish, ?_, congrArg (first ++ ·) handed⟩
    exact run_cons_eq_ok.mpr ⟨first, middle, log, returned, ran, rfl⟩
  · refine .inr ⟨?_, full⟩
    rw [run, returned]
    show (middle.run acts >>= _) = _
    rw [stops]
    rfl

theorem HandsUp.heard {packet : Packet} {now : Instant} {acts : List Act}
    {first later : List Inbound}
    (handed : (session.handlePacket packet now).1 = first)
    (rest : (session.handlePacket packet now).2.HandsUp acts spent later) :
    session.HandsUp (.packet packet now :: acts) spent (first ++ later) :=
  rest.cons (congrArg (fun first => Except.ok (first, (session.handlePacket packet now).2)) handed)

/-- By induction on the stream: the session is ready before each of its acts. -/
theorem Ready.handsUp {acts : List Act} {payloads : List Payload}
    (inTurn : InTurn next acts payloads) (ready : session.Ready next)
    (tended : session.Tended places spent) (small : places ≤ 65535) :
    session.HandsUp acts (spent + acts.countP Act.isUpkeep * places)
      (payloads.map (.deliver · true)) := by
  induction inTurn generalizing session spent with
  | done next => exact .inl ⟨[], session, rfl, rfl⟩
  | @new next acts payloads payload now later ih =>
    obtain ⟨handed, ready⟩ := ready.payload payload now
    have rest := ih ready (tended.onReliable next payload now)
    exact rest.heard handed
  | @again next acts payloads payload now later ih =>
    obtain ⟨handed, ready⟩ := ready.repeated payload now
    have rest := ih ready (tended.onReliable (next - 1) payload now)
    exact rest.heard handed
  | @upkeep next acts payloads now later ih =>
    have once : (Act.maintain now :: acts).countP Act.isUpkeep = acts.countP Act.isUpkeep + 1 :=
      List.countP_cons_of_pos rfl
    rw [once, Nat.succ_mul]
    rcases ready.maintain tended small now with
      ⟨kept, returned, ready, tended⟩ | ⟨stops, full⟩
    · have rest := ih ready tended
      have total : spent + (acts.countP Act.isUpkeep * places + places) =
          spent + places + acts.countP Act.isUpkeep * places := by omega
      rw [total]
      exact rest.cons returned
    · refine .inr ⟨?_, by omega⟩
      rw [run, stops]
      rfl

/-- Take a new session, whether it waits for gaps or not, that is greeted with any number and
then gets payloads in turn, with repeats of the last one and upkeep in between. It hands up
exactly these payloads, each once and in order. Only when so much upkeep could have sent
2 ^ 64 packets again may its counter of these be full. -/
theorem in_turn_handed (client : ClientId) (remote : Address) {settings : SessionSettings}
    (flood : FloodSettings) (start : Instant) (deep : 1 ≤ settings.receivedHistory)
    (short : settings.receivedHistory ≤ 65535) (small : settings.pendingCapacity ≤ 65535)
    (number : Sequence) (greeting : Hello) (greetedAt : Instant) {acts : List Act}
    {payloads : List Payload} (inTurn : InTurn (number + 1) acts payloads) :
    ∃ fresh, create client remote settings flood start = .ok fresh ∧
      ((∃ log finish,
          fresh.run (.packet (.hello number greeting) greetedAt :: acts) = .ok (log, finish) ∧
          handedUp log = .identified :: payloads.map (.deliver · true)) ∨
        (fresh.run (.packet (.hello number greeting) greetedAt :: acts) =
            .error .counterOverflow ∧
          UInt64.size ≤ acts.countP Act.isUpkeep * settings.pendingCapacity)) := by
  obtain ⟨fresh, made⟩ := exists_create client remote flood start short small
  refine ⟨fresh, made, ?_⟩
  obtain ⟨handed, ready⟩ := ready_of_greeting made deep short number greeting greetedAt
  have rest := ready.handsUp inTurn ((tended_create made).onHello number greeting greetedAt) small
  rw [Nat.zero_add] at rest
  exact rest.heard handed

/-- A payload of one short message. -/
def word (tag : UInt8) : Payload := ⟨[.ofBytes tag []]⟩

/-- Two payloads around the end of the ring, repeats of both, and upkeep before, between and
after them. -/
def aroundTheRing : List Act :=
  [.maintain 0, .packet (.reliable 65535 (word 1)) 0, .packet (.reliable 65535 (word 1)) 1,
    .maintain 2000, .packet (.reliable 0 (word 2)) 2000, .packet (.reliable 0 (word 2)) 2001,
    .maintain 4000]

/-- A history with one place is enough for them, and a session that waits for gaps has none
to wait for. -/
theorem in_turn_handed_aroundTheRing :
    InTurn (65534 + 1) aroundTheRing [word 1, word 2] ∧
      ∃ fresh log finish,
        create ⟨1⟩ default { receivedHistory := 1, messageOrdering := true } {} 0 = .ok fresh ∧
        fresh.run (.packet (.hello 65534 (.brief default "")) 0 :: aroundTheRing) =
          .ok (log, finish) ∧
        handedUp log = [.identified, .deliver (word 1) true, .deliver (word 2) true] := by
  have inTurn : InTurn (65534 + 1) aroundTheRing [word 1, word 2] :=
    .upkeep 0 (.new (word 1) 0 (.again (word 1) 1 (.upkeep 2000
      (.new (word 2) 2000 (.again (word 2) 2001 (.upkeep 4000 (.done _)))))))
  let settings : SessionSettings := { receivedHistory := 1, messageOrdering := true }
  have deep : 1 ≤ settings.receivedHistory := by decide
  obtain ⟨fresh, made, ended⟩ :=
    in_turn_handed ⟨1⟩ default {} 0 deep (by decide) (by decide) 65534 (.brief default "") 0 inTurn
  rcases ended with ⟨log, finish, ran, handed⟩ | ⟨-, full⟩
  · exact ⟨inTurn, fresh, log, finish, made, ran, handed⟩
  · exact absurd full (by decide)

end SessionLayer.Session
