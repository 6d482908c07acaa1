import SessionLayer.Proofs.Delivery.Ledger
import SessionLayer.Proofs.Packet.Numbered
import SessionLayer.Proofs.Session.Acknowledged

/-!
# What is sent again

A `Ledger` is kept beside a run: each act is booked in it (`Session.booking`), a packet that
is sent for the first time with its datagram, an acknowledgement that comes in, and a look
after the session, with which the ledger sends again whatever it finds due. `Session.Tallies`
says that session and ledger agree, and `Session.booked_of_act` that each act keeps it so and
queues no other tracked packets than the ledger sends (`Ledger.sends`).

So what a ledger says of its packets is what the session does: `Session.resends_exact`.
-/

namespace SessionLayer

/-- The datagram of a payload or a ping that is to be acknowledged. -/
def isTracked (datagram : Bytes) : Bool :=
  match PacketKind.peek datagram with
  | .ok .reliable | .ok .ping => true
  | _ => false

theorem isTracked_tag (kind : PacketKind) (body : Bytes) :
    isTracked (kind.tag :: body) = true ↔ kind = .reliable ∨ kind = .ping := by
  rw [isTracked, PacketKind.peek, PacketKind.ofTag_tag]
  cases kind <;> simp

theorem isTracked_encode {packet : Packet} {datagram : Bytes}
    (written : packet.encode = .ok datagram) :
    isTracked datagram = true ↔ packet.kind = .reliable ∨ packet.kind = .ping := by
  obtain ⟨body, -, rfl⟩ := Except.map_eq_ok.mp written
  exact isTracked_tag packet.kind body

/-- The datagram of a ping. -/
def pingDatagram (sequence : Sequence) : Bytes := PacketKind.ping.tag :: Wire.u16be sequence

theorem isTracked_pingDatagram (sequence : Sequence) : isTracked (pingDatagram sequence) = true :=
  (isTracked_tag .ping _).mpr (.inr rfl)

/-! ## Bookings -/

/-- What an act means for the packets that a session wants acknowledged. -/
inductive Booking
  | nothing
  | first (sequence : Sequence) (datagram : Bytes) (now : Instant)
  | acked (sequence : Sequence)
  /-- What is due is sent again, and then a ping. -/
  | upkeep (now : Instant) (sequence : Sequence)

namespace Ledger

/-- The ledger after a booking. -/
def book (ledger : Ledger) : Booking → Ledger
  | .nothing => ledger
  | .first sequence datagram now => ledger.first sequence datagram now
  | .acked sequence => ledger.acknowledge sequence
  | .upkeep now sequence => (ledger.resend now).first sequence (pingDatagram sequence) now

/-- The tracked packets that are sent with a booking, in order. -/
def sends (ledger : Ledger) : Booking → List Bytes
  | .nothing | .acked _ => []
  | .first _ datagram _ => [datagram]
  | .upkeep now sequence => (ledger.due now).map Tracked.datagram ++ [pingDatagram sequence]

theorem becomes_book (ledger : Ledger) (booking : Booking) :
    ledger.Becomes (ledger.book booking) := by
  cases booking with
  | nothing => exact .refl ledger
  | first sequence datagram now => exact becomes_first ..
  | acked sequence => exact becomes_acknowledge ..
  | upkeep now sequence => exact (becomes_resend ledger now).trans (becomes_first ..)

theorem Spaced.book {ledger : Ledger} (spaced : ledger.Spaced) (booking : Booking) :
    (ledger.book booking).Spaced := by
  cases booking with
  | nothing => exact spaced
  | first _ _ _ => exact spaced.first
  | acked _ => exact spaced.acknowledge
  | upkeep now _ => exact spaced.resend.first

end Ledger

namespace Session

/-- When an act takes place, if it is given the time. -/
def Act.time? : Act → Option Instant
  | .packet _ now | .check _ now | .send _ _ now | .ping now | .maintain now => some now
  | .disconnect _ | .markDisconnected | .takeOutgoing | .setRoom _ | .clearRoom => none

/-- Where the clock stands after an act. -/
def Act.clockAfter (act : Act) (clock : Instant) : Instant := act.time?.getD clock

/-- Where the clock stands after these acts. -/
def clockAfter (clock : Instant) (acts : List Act) : Instant :=
  acts.foldl (fun clock act => act.clockAfter clock) clock

/-- The clock stands at `clock`, and while these acts are done it does not go back. -/
def Forward (clock : Instant) : List Act → Prop
  | [] => True
  | act :: rest => clock ≤ act.clockAfter clock ∧ Forward (act.clockAfter clock) rest

instance decidableForward : ∀ (clock : Instant) (acts : List Act), Decidable (Forward clock acts)
  | _, [] => .isTrue trivial
  | clock, act :: rest =>
    have := decidableForward (act.clockAfter clock) rest
    inferInstanceAs (Decidable (_ ∧ _))

/-- What an act that leads from one session to another means for the tracked packets. A
number that is given to a packet is the last one that was given. -/
def booking (session : Session) (act : Act) (next : Session) : Booking :=
  match act with
  | .packet (.acknowledge sequence _) _ =>
    if session.state.isOpen then .acked sequence else .nothing
  | .send payload true now =>
    match (Packet.reliable next.outgoingSequence payload).encode with
    | .ok datagram =>
      if session.sendFault?.isNone then .first next.outgoingSequence datagram now else .nothing
    | .error _ => .nothing
  | .ping now => .first next.outgoingSequence (pingDatagram next.outgoingSequence) now
  | .maintain now =>
    if session.IsKeptUp now then .upkeep now next.outgoingSequence else .nothing
  | _ => .nothing

/-- The ledger after these acts are done to a session. -/
def tally (session : Session) (ledger : Ledger) : List Act → Ledger
  | [] => ledger
  | act :: rest =>
    match session.act act with
    | .ok (_, next) => next.tally (ledger.book (session.booking act next)) rest
    | .error _ => ledger

/-- What is left in the outbox when an act begins to queue. -/
def waiting (session : Session) (act : Act) : List Bytes :=
  if act = .takeOutgoing then [] else session.outbox.toList

variable {session middle next finish : Session} {ledger : Ledger} {clock now : Instant}
  {act : Act} {acts : List Act} {handed : List Inbound} {log : List Entry}

/-- Session and ledger agree, and the clock stands at `clock`. -/
structure Tallies (ledger : Ledger) (clock : Instant) (session : Session) : Prop where
  pending : session.pending = ledger.pending
  after : session.settings.retransmitAfter = ledger.after
  timely : ledger.Timely clock
  tracked : ∀ packet ∈ ledger.packets, isTracked packet.datagram = true

/-- An act was booked: session and ledger still agree, and of what the act queues the tracked
packets are those that the ledger sends. -/
structure Booked (ledger : Ledger) (clock : Instant) (session : Session) (act : Act)
    (booking : Booking) (next : Session) : Prop where
  tallies : Tallies (ledger.book booking) clock next
  queues : ∃ queued, next.outbox.toList = session.waiting act ++ queued ∧
    queued.filter isTracked = ledger.sends booking

theorem Tallies.later (tallies : Tallies ledger clock session) (later : clock ≤ now) :
    Tallies ledger now session :=
  ⟨tallies.pending, tallies.after, tallies.timely.mono later, tallies.tracked⟩

/-- An act that has nothing to do with tracked packets. -/
theorem Tallies.plain (tallies : Tallies ledger clock session)
    (pending : next.pending = session.pending) (settings : next.settings = session.settings)
    {queued : List Bytes} (outbox : next.outbox.toList = session.waiting act ++ queued)
    (untracked : ∀ datagram ∈ queued, isTracked datagram ≠ true) :
    Booked ledger clock session act .nothing next where
  tallies := ⟨pending.trans tallies.pending, settings ▸ tallies.after, tallies.timely,
    tallies.tracked⟩
  queues := ⟨queued, outbox, List.filter_eq_nil_iff.mpr untracked⟩

/-- An act that queues nothing, either. -/
theorem Tallies.silent (tallies : Tallies ledger clock session)
    (pending : next.pending = session.pending) (settings : next.settings = session.settings)
    (outbox : next.outbox.toList = session.waiting act) :
    Booked ledger clock session act .nothing next :=
  tallies.plain pending settings (outbox.trans (List.append_nil _).symm) nofun

/-- A packet is tracked, where the session differs from one that agrees with the ledger only
in the number that was given last. -/
theorem Tallies.first (tallies : Tallies ledger now session) (number : Sequence)
    {datagram : Bytes} (tracked : isTracked datagram = true) :
    Tallies (ledger.first number datagram now) now
      ({ session with outgoingSequence := number }.track number datagram now) where
  pending := by
    rw [Ledger.pending_first, ← tallies.pending]
    rfl
  after := tallies.after
  timely := tallies.timely.first
  tracked := Ledger.forall_first tracked tallies.tracked

/-! ## Packets from the peer -/

/-- All that a packet makes a session queue is an acknowledgement. -/
theorem outbox_handlePacket (session : Session) (packet : Packet) (now : Instant) :
    (session.handlePacket packet now).2.outbox = session.outbox ∨
      ∃ sequence, (session.handlePacket packet now).2.outbox =
        session.outbox.push (PacketKind.acknowledge.tag :: (Wire.u16be sequence ++ [0xff])) := by
  unfold handlePacket
  split
  · cases packet with
    | hello sequence greeting =>
      simp only [onPacket, onHello]
      split <;> exact .inr ⟨sequence, rfl⟩
    | reliable sequence payload =>
      simp only [onPacket, onReliable]
      split
      · exact .inl rfl
      split
      · exact .inr ⟨sequence, rfl⟩
      split <;> exact .inr ⟨sequence, rfl⟩
    | ping sequence => exact .inr ⟨sequence, rfl⟩
    | _ => exact .inl rfl
  · exact .inl rfl

theorem exists_queued_handlePacket (session : Session) (packet : Packet) (now : Instant) :
    ∃ queued, (session.handlePacket packet now).2.outbox.toList =
        session.outbox.toList ++ queued ∧
      ∀ datagram ∈ queued, isTracked datagram ≠ true := by
  rcases session.outbox_handlePacket packet now with same | ⟨sequence, pushed⟩
  · exact ⟨[], by rw [same, List.append_nil], nofun⟩
  · refine ⟨_, by rw [pushed, Queue.toList_push], fun datagram only => ?_⟩
    rw [List.mem_singleton.mp only, Ne, isTracked_tag]
    decide

/-- A farewell is not tracked. -/
theorem exists_queued_disconnect (session : Session) (farewell : Option Farewell) :
    ∃ queued, (session.disconnect farewell).2.outbox.toList =
        session.outbox.toList ++ queued ∧
      ∀ datagram ∈ queued, isTracked datagram ≠ true := by
  unfold disconnect
  split
  · exact ⟨[], (List.append_nil _).symm, nofun⟩
  · refine ⟨_, Queue.toList_push .., fun datagram only => ?_⟩
    rw [List.mem_singleton.mp only, farewellDatagram]
    split
    · rename_i written
      rw [Ne, isTracked_encode written]
      simp [Packet.kind]
    · rw [Ne, isTracked_tag]
      decide

theorem booked_packet (tallies : Tallies ledger now session) (packet : Packet) :
    Booked ledger now session (.packet packet now)
      (session.booking (.packet packet now) (session.handlePacket packet now).2)
      (session.handlePacket packet now).2 := by
  have pending := session.pending_handlePacket_eq packet now
  have settings : (session.handlePacket packet now).2.settings = session.settings :=
    (session.samePeer_handlePacket packet now).settings
  obtain ⟨queued, outbox, untracked⟩ := session.exists_queued_handlePacket packet now
  cases packet with
  | acknowledge sequence missing =>
    simp only [booking]
    simp only at pending
    split at pending
    · rename_i opened
      rw [if_pos opened]
      rw [tallies.pending, ← Ledger.pending_acknowledge] at pending
      exact
        { tallies :=
            { pending := pending
              after := settings ▸ tallies.after
              timely := tallies.timely.acknowledge
              tracked := Ledger.forall_acknowledge (fun _ kept => kept) tallies.tracked }
          queues := ⟨queued, outbox, List.filter_eq_nil_iff.mpr untracked⟩ }
    · rename_i closed
      rw [if_neg closed]
      exact tallies.plain pending settings outbox untracked
  | _ => exact tallies.plain pending settings outbox untracked

/-! ## Commands and upkeep -/

theorem booked_send {payload : Payload} {reliable : Bool}
    {answer : Except SessionFault (Option Sequence)} (tallies : Tallies ledger now session)
    (returned : session.send payload reliable now = .ok (answer, next)) :
    Booked ledger now session (.send payload reliable now)
      (session.booking (.send payload reliable now) next) next := by
  cases sending returned with
  | refused found =>
    cases reliable with
    | false => exact tallies.silent rfl rfl rfl
    | true =>
      simp only [booking, found, Option.isNone_some, Bool.false_eq_true, if_false]
      split <;> exact tallies.silent rfl rfl rfl
  | posted _ written =>
    refine tallies.plain rfl rfl (Queue.toList_push ..) fun datagram only => ?_
    rw [List.mem_singleton.mp only, Ne, isTracked_encode written]
    simp [Packet.kind]
  | unwritable _ _ => exact tallies.silent rfl rfl rfl
  | @tracked sequence datagram identified _ written =>
    have writes : (Packet.reliable ({ session with outgoingSequence := sequence }.track sequence
        datagram now).outgoingSequence payload).encode = .ok datagram := written
    have booked : session.booking (.send payload true now)
        ({ session with outgoingSequence := sequence }.track sequence datagram now) =
        .first sequence datagram now := by
      rw [booking, writes, sendFault?, identified]
      rfl
    have tracked : isTracked datagram = true := (isTracked_encode written).mpr (.inl rfl)
    rw [booked]
    exact ⟨tallies.first sequence tracked,
      ⟨[datagram], Queue.toList_push .., by simp [tracked, Ledger.sends]⟩⟩
  | @spoiled sequence fault identified _ unwritten =>
    have fails : (Packet.reliable { session with
        outgoingSequence := sequence }.outgoingSequence payload).encode = .error fault := unwritten
    have booked : session.booking (.send payload true now)
        { session with outgoingSequence := sequence } = .nothing := by
      rw [booking, fails]
    rw [booked]
    exact tallies.silent rfl rfl rfl

theorem booked_ping {number : Sequence} (tallies : Tallies ledger now session)
    (returned : session.sendPing now = .ok (number, next)) :
    Booked ledger now session (.ping now) (session.booking (.ping now) next) next := by
  obtain ⟨-, rfl⟩ := sendPing_eq_ok returned
  have tracked := isTracked_pingDatagram number
  exact ⟨tallies.first number tracked,
    ⟨[pingDatagram number], Queue.toList_push .., by simp [tracked, Ledger.sends, booking]; rfl⟩⟩

/-- A session that is not kept up is left as it is. -/
theorem Looking.eq_of_unkept {upkeep : Upkeep} (looking : session.Looking now upkeep next)
    (unkept : ¬ session.IsKeptUp now) : next = session := by
  cases looking with
  | keptUp opened known lively _ _ => exact absurd ⟨opened, known, lively⟩ unkept
  | _ => rfl

/-- What becomes of a session that is kept up, as far as its tracked packets go: those that
are overdue are sent again, and then a ping goes out. -/
structure Upheld (session : Session) (now : Instant) (upkeep : Upkeep) (next : Session) :
    Prop where
  settings : next.settings = session.settings
  pending : next.pending =
    ((session.pending.resendOverdue now session.settings.retransmitAfter).record
      next.outgoingSequence (pingDatagram next.outgoingSequence) now).2
  outbox : next.outbox.toList = session.outbox.toList ++
    ((session.pending.overdue now session.settings.retransmitAfter).map PendingPacket.bytes ++
      [pingDatagram next.outgoingSequence])
  resent : upkeep.resent =
    (session.pending.overdue now session.settings.retransmitAfter).length

theorem Looking.upheld {upkeep : Upkeep} (looking : session.Looking now upkeep next)
    (kept : session.IsKeptUp now) : session.Upheld now upkeep next := by
  cases looking with
  | shut closed => exact absurd (closed.symm.trans kept.1) Bool.false_ne_true
  | waiting _ unknown _ | idle _ unknown _ =>
    exact absurd (unknown.symm.trans kept.2.1) Bool.false_ne_true
  | unresponsive _ _ stalled => exact absurd (kept.2.2.symm.trans stalled) Bool.false_ne_true
  | @keptUp sequence _ _ _ _ _ =>
    -- Gaps expire after the ping is tracked, which leaves the outbox and the list alone.
    generalize tracked : ({ (session.resendOverdue now).2 with outgoingSequence := sequence }.track
      sequence (PacketKind.ping.tag :: Wire.u16be sequence) now) = pinged
    have number : (pinged.expireGaps now).2.outgoingSequence = sequence := by
      rw [expireGaps_frame, ← tracked]
      rfl
    constructor
    · rw [expireGaps_frame, ← tracked]
      rfl
    · rw [number, expireGaps_frame, ← tracked]
      rfl
    · rw [number, expireGaps_frame, ← tracked, ← List.append_assoc]
      exact (Queue.toList_push ..).trans (congrArg (· ++ _) (Queue.toList_append ..))
    · rfl

/-- A ledger that agrees with the session finds due what the session finds overdue. -/
theorem Tallies.overdue (tallies : Tallies ledger now session) :
    session.pending.overdue now session.settings.retransmitAfter =
      (ledger.due now).map Tracked.entry := by
  rw [tallies.pending, tallies.after, Ledger.overdue_pending tallies.timely]

theorem Tallies.outbox_upheld {upkeep : Upkeep} (tallies : Tallies ledger now session)
    (upheld : session.Upheld now upkeep next) :
    next.outbox.toList = session.outbox.toList ++
      ((ledger.due now).map Tracked.datagram ++ [pingDatagram next.outgoingSequence]) := by
  rw [upheld.outbox, tallies.overdue, List.map_map]
  rfl

/-- What is due is sent again, each with its datagram, and then a ping. -/
theorem booked_maintain {upkeep : Upkeep} (tallies : Tallies ledger now session)
    (returned : session.maintain now = .ok (upkeep, next)) :
    Booked ledger now session (.maintain now) (session.booking (.maintain now) next) next := by
  by_cases keptUp : session.IsKeptUp now
  · have upheld := (looking returned).upheld keptUp
    rw [booking, if_pos keptUp]
    refine ⟨⟨?_, upheld.settings ▸ tallies.after, tallies.timely.resend.first, ?_⟩,
      ⟨_, tallies.outbox_upheld upheld, List.filter_eq_self.mpr fun datagram among => ?_⟩⟩
    · rw [upheld.pending, tallies.pending, tallies.after, ← Ledger.pending_resend tallies.timely,
        ← Ledger.pending_first]
      rfl
    · exact Ledger.forall_first (isTracked_pingDatagram _)
        (Ledger.forall_resend (fun _ _ tracked => tracked) tallies.tracked)
    · rcases List.mem_append.mp among with due | ping
      · obtain ⟨packet, present, rfl⟩ := List.mem_map.mp due
        exact tallies.tracked packet (List.mem_of_mem_drop (List.mem_filter.mp present).1)
      · exact List.mem_singleton.mp ping ▸ isTracked_pingDatagram _
  · rw [booking, if_neg keptUp, (looking returned).eq_of_unkept keptUp]
    exact tallies.silent rfl rfl rfl

/-! ## Acts and runs -/

/-- Whatever is done to a session, it is booked. -/
theorem booked_of_act (tallies : Tallies ledger clock session)
    (later : clock ≤ act.clockAfter clock) (returned : session.act act = .ok (handed, next)) :
    Booked ledger (act.clockAfter clock) session act (session.booking act next) next := by
  replace tallies := tallies.later later
  cases act with
  | packet packet now =>
    have same : session.handlePacket packet now = (handed, next) := Except.ok.inj returned
    have booked : Booked ledger now session (.packet packet now)
        (session.booking (.packet packet now) (session.handlePacket packet now).2)
        (session.handlePacket packet now).2 := booked_packet tallies packet
    rw [same] at booked
    exact booked
  | check trafficClass now =>
    simp only [Session.act, Halt.bind_eq_ok, Halt.pure_eq_ok, Prod.exists] at returned
    obtain ⟨decision, checked, returned, same⟩ := returned
    cases same
    rw [(checkRate_eq_ok returned).2]
    exact tallies.silent rfl rfl rfl
  | send payload reliable now =>
    simp only [Session.act, Halt.bind_eq_ok, Halt.pure_eq_ok, Prod.exists] at returned
    obtain ⟨answer, sent, returned, same⟩ := returned
    cases same
    exact booked_send tallies returned
  | ping now =>
    simp only [Session.act, Halt.bind_eq_ok, Halt.pure_eq_ok, Prod.exists] at returned
    obtain ⟨number, pinged, returned, same⟩ := returned
    cases same
    exact booked_ping tallies returned
  | maintain now =>
    simp only [Session.act, Halt.bind_eq_ok, Halt.pure_eq_ok, Prod.exists] at returned
    obtain ⟨upkeep, kept, returned, same⟩ := returned
    cases same
    exact booked_maintain tallies returned
  | disconnect farewell =>
    cases returned
    obtain ⟨queued, outbox, untracked⟩ := session.exists_queued_disconnect farewell
    have frame := session.disconnect_frame farewell
    exact tallies.plain (by rw [frame]) (by rw [frame]) outbox untracked
  | markDisconnected | takeOutgoing | setRoom room | clearRoom =>
    cases returned
    exact tallies.silent rfl rfl rfl

/-- Through every run session and ledger agree, and no packet is sent twice within the time
that it is given. -/
theorem tallies_run (tallies : Tallies ledger clock session) (spaced : ledger.Spaced)
    (forward : Forward clock acts) (ran : session.run acts = .ok (log, finish)) :
    Tallies (session.tally ledger acts) (clockAfter clock acts) finish ∧
      (session.tally ledger acts).Spaced := by
  -- Each act carries session and ledger on together, and the clock with them.
  induction acts generalizing session ledger clock log with
  | nil =>
    cases ran
    exact ⟨tallies, spaced⟩
  | cons act rest ih =>
    obtain ⟨handed, middle, _, returned, onward, -⟩ := run_cons_eq_ok.mp ran
    obtain ⟨later, forward⟩ := forward
    rw [tally, returned]
    exact ih (booked_of_act tallies later returned).tallies (spaced.book _) forward onward

theorem becomes_tally (session : Session) (ledger : Ledger) (acts : List Act) :
    ledger.Becomes (session.tally ledger acts) := by
  induction acts generalizing session ledger with
  | nil => exact .refl ledger
  | cons act rest ih =>
    rw [tally]
    split
    · rename_i next _
      exact (ledger.becomes_book _).trans (ih next _)
    · exact .refl ledger

theorem tallies_create {client : ClientId} {remote : Address} {settings : SessionSettings}
    {flood : FloodSettings}
    (made : create client remote settings flood now = .ok session) :
    Tallies (.blank settings.pendingCapacity settings.retransmitAfter) now session := by
  rw [create_eq_ok made]
  exact ⟨by simp [Ledger.pending, Ledger.held, Ledger.blank, PendingList.empty], rfl, nofun, nofun⟩

/-- An open session whose client is known is kept up unless it is reported as
unresponsive. -/
theorem isKeptUp_of_health {upkeep : Upkeep} (opened : session.state.isOpen = true)
    (known : session.isIdentified = true) (returned : session.maintain now = .ok (upkeep, next))
    (lively : upkeep.health ≠ .unresponsive) : session.IsKeptUp now := by
  refine ⟨opened, known, ?_⟩
  cases looking returned with
  | shut closed => exact absurd (closed.symm.trans opened) Bool.false_ne_true
  | waiting _ unknown _ | idle _ unknown _ =>
    exact absurd (unknown.symm.trans known) Bool.false_ne_true
  | unresponsive _ _ _ => exact absurd rfl lively
  | keptUp _ _ responsive _ _ => exact responsive

/-- In every run from the start in which the clock does not go back, the pending packets are
the last ones of the ledger, with what it says of them. Of what an act queues then, the
tracked packets are those that the ledger sends: so a look after an open session whose client
is known and not unresponsive sends again exactly what is due, oldest first, each with the
datagram with which it was first sent, and then a ping. Between any two times at which a
packet was sent lies at least the time that it is given. Whatever is done later, the datagram
of a packet stays what it is, and no time is added to a packet that is acknowledged or has
been pushed out of the list. -/
theorem resends_exact {client : ClientId} {remote : Address} {settings : SessionSettings}
    {flood : FloodSettings} {fresh : Session} {start : Instant}
    (made : create client remote settings flood start = .ok fresh)
    (forward : Forward start acts) (ran : fresh.run acts = .ok (log, session)) :
    ∃ ledger,
      ledger = fresh.tally (.blank settings.pendingCapacity settings.retransmitAfter) acts ∧
      session.pending = ⟨settings.pendingCapacity, ledger.held.map Tracked.entry⟩ ∧
      (∀ act handed next, clockAfter start acts ≤ act.clockAfter (clockAfter start acts) →
        session.act act = .ok (handed, next) →
        ∃ queued, next.outbox.toList = session.waiting act ++ queued ∧
          queued.filter isTracked = ledger.sends (session.booking act next)) ∧
      (∀ now upkeep next, clockAfter start acts ≤ now → session.state.isOpen = true →
        session.isIdentified = true → session.maintain now = .ok (upkeep, next) →
        upkeep.health ≠ .unresponsive →
        upkeep.resent = (ledger.due now).length ∧
          next.outbox.toList = session.outbox.toList ++
            ((ledger.due now).map Tracked.datagram ++ [pingDatagram next.outgoingSequence])) ∧
      (∀ packet ∈ ledger.packets, packet.sentAt.Pairwise fun later earlier =>
        earlier + settings.retransmitAfter ≤ later) ∧
      ∀ more, ledger.Becomes (session.tally ledger more) := by
  obtain ⟨tallies, spaced⟩ := tallies_run (tallies_create made) nofun forward ran
  have kept := becomes_tally fresh (.blank settings.pendingCapacity settings.retransmitAfter) acts
  have window : _ = settings.pendingCapacity := kept.window
  have after : _ = settings.retransmitAfter := kept.after
  refine ⟨_, rfl, ?_, fun act handed next later returned =>
    (booked_of_act tallies later returned).queues, fun now upkeep next later opened known returned
      lively => ?_, ?_, becomes_tally session _⟩
  · rw [tallies.pending, Ledger.pending, window]
  · have here := tallies.later later
    have upheld := (looking returned).upheld (isKeptUp_of_health opened known returned lively)
    exact ⟨by rw [upheld.resent, here.overdue, List.length_map], here.outbox_upheld upheld⟩
  · intro packet among
    have apart := spaced packet among
    rwa [after] at apart

/-- Two payloads, of which the second is acknowledged. A look after the session sends the first
again, which the ping then pushes out of a list with two places. -/
def pushedOut : List Act :=
  [.packet (.hello 0 (.brief default "")) 0, .send ⟨[]⟩ true 0, .send ⟨[]⟩ true 0,
    .packet (.acknowledge 2 255) 0, .takeOutgoing, .maintain 1000]

/-- Of the three packets only the ping is sent again at the next look, for the other two are
acknowledged or pushed out. -/
theorem resends_exact_pushedOut :
    ∃ fresh log session upkeep next,
      create ⟨1⟩ default { pendingCapacity := 2, retransmitAfterMs := 1 } {} 0 = .ok fresh ∧
      Forward 0 pushedOut ∧ fresh.run pushedOut = .ok (log, session) ∧
      fresh.tally (.blank 2 1000) pushedOut = ⟨2, 1000,
        [⟨1, [1, 0, 1], 0, [1000], false⟩, ⟨2, [1, 0, 2], 0, [], true⟩,
          ⟨3, [12, 0, 3], 1000, [], false⟩]⟩ ∧
      session.state.isOpen = true ∧ session.isIdentified = true ∧
      session.maintain 2000 = .ok (upkeep, next) ∧ upkeep.health ≠ .unresponsive ∧
      upkeep.resent = 1 ∧
      next.outbox.toList = [[1, 0, 1], [12, 0, 3]] ++ [[12, 0, 3], [12, 0, 4]] := by
  obtain ⟨fresh, made⟩ := Halt.exists_of_isSome
    (create ⟨1⟩ default { pendingCapacity := 2, retransmitAfterMs := 1 } {} 0) (by decide +kernel)
  have same := create_eq_ok made
  have seen : (fresh.run pushedOut).toOption.any (fun result =>
      (result.2.maintain 2000).toOption.any fun kept =>
        (result.2.state.isOpen, result.2.isIdentified, result.2.outbox.toList,
          decide (kept.1.health = .unresponsive), kept.2.outgoingSequence) =
        (true, true, [[1, 0, 1], [12, 0, 3]], false, 4)) = true := by
    rw [same]
    decide +kernel
  obtain ⟨⟨log, session⟩, ran, seen⟩ := Halt.exists_of_any seen
  obtain ⟨⟨upkeep, next⟩, kept, seen⟩ := Halt.exists_of_any seen
  obtain ⟨opened, known, waiting, lively, number⟩ := by
    simpa only [decide_eq_true_eq, Prod.mk.injEq] using seen
  have tallied : fresh.tally (.blank 2 1000) pushedOut = ⟨2, 1000,
      [⟨1, [1, 0, 1], 0, [1000], false⟩, ⟨2, [1, 0, 2], 0, [], true⟩,
        ⟨3, [12, 0, 3], 1000, [], false⟩]⟩ := by
    rw [same]
    decide +kernel
  have forward : Forward 0 pushedOut := by decide +kernel
  obtain ⟨ledger, rfl, -, -, looks, -⟩ := resends_exact made forward ran
  have again := looks 2000 upkeep next (by decide +kernel) opened known kept
    (of_decide_eq_false lively)
  change upkeep.resent = ((fresh.tally (.blank 2 1000) pushedOut).due 2000).length ∧ _ at again
  obtain ⟨count, queued⟩ := again
  refine ⟨fresh, log, session, upkeep, next, made, forward, ran, tallied, opened, known, kept,
    of_decide_eq_false lively, ?_, ?_⟩
  · rw [count, tallied]
    rfl
  · rw [queued, waiting, number]
    change _ ++ (((fresh.tally (.blank 2 1000) pushedOut).due 2000).map Tracked.datagram ++ _) = _
    rw [tallied]
    rfl

end Session

end SessionLayer
