import SessionLayer.Proofs.Halting
import SessionLayer.Session.Incoming
import SessionLayer.Session.Upkeep

/-!
# What a session can do

Each operation of a session ends in one of a few ways. The relations of this module
list them once, with everything that a way does to the session:

* `Sending` for payloads that the application sends (`Session.sending`),
* `Looking` for the regular look after a session (`Session.looking`),
* `Hearing` for packets from the peer (`Session.hearing`), which keeps only what is
  handed up and what becomes of the identity.

`SamePeer` is what no operation changes.
-/

namespace SessionLayer

/-! ## What stays -/

/-- Two states of one session. -/
structure Session.SamePeer (first second : Session) : Prop where
  client : second.client = first.client
  remote : second.remote = first.remote
  settings : second.settings = first.settings

namespace Session

theorem SamePeer.refl (session : Session) : session.SamePeer session := ⟨rfl, rfl, rfl⟩

theorem SamePeer.trans {first second third : Session} (left : first.SamePeer second)
    (right : second.SamePeer third) : first.SamePeer third :=
  ⟨right.client.trans left.client, right.remote.trans left.remote,
    right.settings.trans left.settings⟩

/-- Datagrams that are fetched leave the session of the same peer. -/
theorem SamePeer.takeOutgoing {first second : Session} (same : first.SamePeer second) :
    first.SamePeer second.takeOutgoing.2 :=
  ⟨same.client, same.remote, same.settings⟩

theorem isIdentified_of_identity_eq {first second : Session}
    (h : second.identity = first.identity) : second.isIdentified = first.isIdentified := by
  rw [isIdentified, isIdentified, h]

/-! ## Making a session -/

theorem create_eq_ok {client : ClientId} {remote : Address}
    {settings : SessionSettings} {flood : FloodSettings} {now : Instant} {session : Session}
    (h : Session.create client remote settings flood now = .ok session) :
    session =
      { client, remote, settings
        state := .unidentified, identity := none, outgoingSequence := 0
        pending := .empty settings.pendingCapacity
        history := .empty settings.receivedHistory
        reorder := .empty 0 settings.reorderCapacity settings.reorderTimeout
        limiter := .fresh flood, roundTrip := none, room := none, outbox := .empty
        sentDisconnect := false, createdAt := now, lastReceivedAt := now, totalResends := 0 } := by
  simp only [create, PendingList.create, ReceivedHistory.create, Halt.bind_eq_ok,
    Halt.pure_eq_ok] at h
  rcases h with ⟨_, ⟨_, _, rfl⟩, _, ⟨_, _, rfl⟩, rfl⟩
  rfl

/-- There is memory for histories and lists that are not longer than the ring. -/
theorem exists_create (client : ClientId) (remote : Address) {settings : SessionSettings}
    (flood : FloodSettings) (now : Instant) (short : settings.receivedHistory ≤ 65535)
    (small : settings.pendingCapacity ≤ 65535) :
    ∃ session, create client remote settings flood now = .ok session := by
  have packets : (settings.pendingCapacity + 1) * PendingList.itemSize < Memory.bound := by
    show _ * 64 < 9223372036854775808
    omega
  have numbers : (settings.receivedHistory + 1) * ReceivedHistory.itemSize < Memory.bound := by
    show _ * 2 < 9223372036854775808
    omega
  rw [create, PendingList.create, ReceivedHistory.create, Memory.reserve, Memory.reserve,
    if_pos packets, if_pos numbers]
  exact ⟨_, rfl⟩

/-! ## Sending -/

/-- The ways in which a session sends a payload, or does not. -/
inductive Sending (session : Session) (payload : Payload) (now : Instant) :
    Bool → Except SessionFault (Option Sequence) → Session → Prop
  | refused {reliable : Bool} {fault : SessionFault} :
    session.sendFault? = some fault → Sending session payload now reliable (.error fault) session
  | posted {datagram : Bytes} :
    session.state = .identified → (Packet.unreliable payload).encode = .ok datagram →
    Sending session payload now false (.ok none) (session.post datagram)
  | unwritable {fault : WireFault} :
    session.state = .identified → (Packet.unreliable payload).encode = .error fault →
    Sending session payload now false (.error (.encode fault)) session
  | tracked {sequence : Sequence} {datagram : Bytes} :
    session.state = .identified →
    session.pending.freeAfter session.outgoingSequence = .ok sequence →
    (Packet.reliable sequence payload).encode = .ok datagram →
    Sending session payload now true (.ok (some sequence))
      ({ session with outgoingSequence := sequence }.track sequence datagram now)
  | spoiled {sequence : Sequence} {fault : WireFault} :
    session.state = .identified →
    session.pending.freeAfter session.outgoingSequence = .ok sequence →
    (Packet.reliable sequence payload).encode = .error fault →
    Sending session payload now true (.error (.encode fault))
      { session with outgoingSequence := sequence }

theorem state_of_sendFault? {session : Session} (h : session.sendFault? = none) :
    session.state = .identified := by
  unfold sendFault? at h
  split at h <;> simp_all

theorem sending {session next : Session} {payload : Payload} {reliable : Bool} {now : Instant}
    {answer : Except SessionFault (Option Sequence)}
    (h : session.send payload reliable now = .ok (answer, next)) :
    session.Sending payload now reliable answer next := by
  unfold send at h
  split at h
  · rename_i fault found
    cases h
    exact .refused found
  · rename_i open?
    have identified := state_of_sendFault? open?
    cases reliable with
    | false =>
      simp only [Bool.false_eq_true, if_false, sendUnreliable, Except.ok.injEq] at h
      split at h
      · rename_i datagram written
        cases h
        exact .posted identified written
      · rename_i fault refused
        cases h
        exact .unwritable identified refused
    | true =>
      simp only [if_true, sendReliable, takeSequence, Halt.bind_eq_ok, Halt.pure_eq_ok] at h
      rcases h with ⟨_, ⟨sequence, free, rfl⟩, h⟩
      simp only at h
      split at h
      · rename_i datagram written
        cases h
        exact .tracked identified free written
      · rename_i fault refused
        cases h
        exact .spoiled identified free refused

theorem Sending.samePeer {session next : Session} {payload : Payload} {now : Instant}
    {reliable : Bool} {answer : Except SessionFault (Option Sequence)}
    (h : session.Sending payload now reliable answer next) : session.SamePeer next := by
  cases h <;> exact ⟨rfl, rfl, rfl⟩

theorem Sending.identity_eq {session next : Session} {payload : Payload} {now : Instant}
    {reliable : Bool} {answer : Except SessionFault (Option Sequence)}
    (h : session.Sending payload now reliable answer next) :
    next.identity = session.identity := by
  cases h <;> rfl

/-! ## Looking after a session -/

/-- The ways in which a session is looked after. -/
inductive Looking (session : Session) (now : Instant) : Upkeep → Session → Prop
  | shut : session.state.isOpen = false → Looking session now (.only .alive) session
  | waiting :
    session.state.isOpen = true → session.isIdentified = false → session.isIdle now = false →
    Looking session now (.only .alive) session
  | idle :
    session.state.isOpen = true → session.isIdentified = false → session.isIdle now = true →
    Looking session now (.only .idle) session
  | unresponsive :
    session.state.isOpen = true → session.isIdentified = true →
    session.isUnresponsive now = true → Looking session now (.only .unresponsive) session
  | keptUp {sequence : Sequence} :
    session.state.isOpen = true → session.isIdentified = true →
    session.isUnresponsive now = false →
    (session.resendOverdue now).2.countersFit = true →
    (session.resendOverdue now).2.pending.freeAfter session.outgoingSequence = .ok sequence →
    Looking session now
      ⟨.alive, (({ (session.resendOverdue now).2 with outgoingSequence := sequence }.track
          sequence (PacketKind.ping.tag :: Wire.u16be sequence) now).expireGaps now).1,
        (session.resendOverdue now).1⟩
      (({ (session.resendOverdue now).2 with outgoingSequence := sequence }.track
          sequence (PacketKind.ping.tag :: Wire.u16be sequence) now).expireGaps now).2

theorem encode_ping (sequence : Sequence) :
    (Packet.ping sequence).encode = .ok (PacketKind.ping.tag :: Wire.u16be sequence) := rfl

theorem sendPing_of_free {session : Session} {sequence : Sequence}
    (free : session.pending.freeAfter session.outgoingSequence = .ok sequence) (now : Instant) :
    session.sendPing now =
      .ok (sequence, { session with outgoingSequence := sequence }.track sequence
        (PacketKind.ping.tag :: Wire.u16be sequence) now) := by
  rw [sendPing, takeSequence, free]
  rfl

theorem sendPing_eq_ok {session next : Session} {sequence : Sequence} {now : Instant}
    (h : session.sendPing now = .ok (sequence, next)) :
    session.pending.freeAfter session.outgoingSequence = .ok sequence ∧
      next = { session with outgoingSequence := sequence }.track sequence
        (PacketKind.ping.tag :: Wire.u16be sequence) now := by
  simp only [sendPing, takeSequence, encode_ping, Halt.bind_eq_ok, Halt.pure_eq_ok] at h
  rcases h with ⟨_, ⟨_, free, rfl⟩, same⟩
  cases same
  exact ⟨free, rfl⟩

theorem looking {session next : Session} {now : Instant} {upkeep : Upkeep}
    (h : session.maintain now = .ok (upkeep, next)) : session.Looking now upkeep next := by
  unfold maintain at h
  split at h
  · rename_i closed
    cases h
    exact .shut (by simpa using closed)
  rename_i isOpen
  replace isOpen : session.state.isOpen = true := by simpa using isOpen
  split at h
  · rename_i unknown
    replace unknown : session.isIdentified = false := by simpa using unknown
    cases h
    cases silent : session.isIdle now with
    | false => exact .waiting isOpen unknown silent
    | true => exact .idle isOpen unknown silent
  rename_i known
  replace known : session.isIdentified = true := by simpa using known
  split at h
  · rename_i stalled
    cases h
    exact .unresponsive isOpen known stalled
  rename_i lively
  replace lively : session.isUnresponsive now = false := by simpa using lively
  unfold keepUp at h
  simp only at h
  split at h
  · cases h
  rename_i fit
  replace fit : (session.resendOverdue now).2.countersFit = true := by simpa using fit
  simp only [sendPing, takeSequence, encode_ping, Halt.bind_eq_ok, Halt.pure_eq_ok] at h
  rcases h with ⟨_, ⟨_, ⟨sequence, free, rfl⟩, rfl⟩, h⟩
  cases h
  exact .keptUp isOpen known lively fit free

theorem expireGaps_frame (session : Session) (now : Instant) :
    (session.expireGaps now).2 =
      { session with reorder := (session.expireGaps now).2.reorder } := by
  unfold expireGaps
  split <;> rfl

theorem Looking.samePeer {session next : Session} {now : Instant} {upkeep : Upkeep}
    (h : session.Looking now upkeep next) : session.SamePeer next := by
  cases h with
  | keptUp => rw [expireGaps_frame]; exact ⟨rfl, rfl, rfl⟩
  | _ => exact .refl session

/-- Looking after a session leaves its identity alone, and what it releases was sent
by an identified client. -/
theorem Looking.identity_eq {session next : Session} {now : Instant} {upkeep : Upkeep}
    (h : session.Looking now upkeep next) : next.identity = session.identity := by
  cases h with
  | keptUp => rw [expireGaps_frame]; rfl
  | _ => rfl

theorem Looking.lastReceivedAt_eq {session next : Session} {now : Instant} {upkeep : Upkeep}
    (h : session.Looking now upkeep next) : next.lastReceivedAt = session.lastReceivedAt := by
  cases h with
  | keptUp => rw [expireGaps_frame]; rfl
  | _ => rfl

theorem Looking.isUnresponsive_eq {session next : Session} {now : Instant} {upkeep : Upkeep}
    (h : session.Looking now upkeep next) (opened : session.state.isOpen = true)
    (known : session.isIdentified = true) (alive : upkeep.health = .alive) :
    session.isUnresponsive now = false := by
  cases h with
  | shut closed => simp [opened] at closed
  | waiting _ unknown _ => simp [known] at unknown
  | idle _ unknown _ => simp [known] at unknown
  | unresponsive _ _ _ => cases alive
  | keptUp _ _ lively _ _ => exact lively

theorem Looking.released_eq_nil {session next : Session} {now : Instant} {upkeep : Upkeep}
    (h : session.Looking now upkeep next)
    (h' : session.isIdentified = false ∨ upkeep.health ≠ .alive) : upkeep.released = [] := by
  cases h with
  | keptUp _ known => simp [known] at h'
  | _ => rfl

/-! ## Hearing from the peer -/

/-- What a packet from the peer hands up, and what becomes of the identity. -/
inductive Hearing (session : Session) : List Inbound → Session → Prop
  | silent {next : Session} : next.identity = session.identity → Hearing session [] next
  | identified {next : Session} {identity : ClientIdentity} :
    session.identity = none → next.identity = some identity →
    Hearing session [.identified] next
  | delivered {next : Session} (payloads : List Payload) {reliable : Bool} :
    session.isIdentified = true → next.identity = session.identity →
    Hearing session (payloads.map (Inbound.deliver · reliable)) next
  | left {next : Session} {farewell : Option Farewell} :
    next.identity = session.identity → Hearing session [.peerLeft farewell] next

/-- An acknowledgement always has a datagram. -/
theorem postAck_eq (session : Session) (sequence : Sequence) :
    session.postAck sequence =
      session.post (PacketKind.acknowledge.tag :: (Wire.u16be sequence ++ [0xff])) := rfl

@[simp] theorem identity_postAck (session : Session) (sequence : Sequence) :
    (session.postAck sequence).identity = session.identity := rfl

theorem hearing_onReliable (session : Session) (sequence : Sequence) (payload : Payload)
    (now : Instant) :
    session.Hearing (session.onReliable sequence payload now).1
      (session.onReliable sequence payload now).2 := by
  unfold onReliable
  split
  · exact .silent rfl
  rename_i known
  replace known : session.isIdentified = true := by simpa using known
  simp only
  split
  · exact .silent (identity_postAck session sequence)
  split
  · exact .delivered _ known (identity_postAck session sequence)
  · exact .delivered [payload] known (identity_postAck session sequence)

theorem hearing_onHello (session : Session) (sequence : Sequence) (greeting : Hello) :
    session.Hearing (session.onHello sequence greeting).1
      (session.onHello sequence greeting).2 := by
  unfold onHello
  simp only
  split
  · exact .silent (identity_postAck session sequence)
  · rename_i unknown
    refine .identified ?_ rfl
    simpa [isIdentified] using unknown

theorem hearing_onUnreliable (session : Session) (payload : Payload) :
    session.Hearing (session.onUnreliable payload) session := by
  unfold onUnreliable
  split
  · rename_i known
    exact .delivered [payload] known rfl
  · exact .silent rfl

theorem hearing_onPacket (session : Session) (packet : Packet) (now : Instant) :
    session.Hearing (session.onPacket packet now).1 (session.onPacket packet now).2 := by
  cases packet with
  | hello sequence greeting => exact hearing_onHello session sequence greeting
  | acknowledge sequence missing => exact .silent rfl
  | ping sequence => exact .silent (identity_postAck session sequence)
  | reliable sequence payload => exact hearing_onReliable session sequence payload now
  | unreliable payload => exact hearing_onUnreliable session payload
  | disconnect farewell => exact .left rfl

/-- Only the identity of a session decides what it hands up. -/
theorem Hearing.congr {first second next : Session} {inbound : List Inbound}
    (h : second.Hearing inbound next) (same : second.identity = first.identity) :
    first.Hearing inbound next := by
  cases h with
  | silent kept => exact .silent (kept.trans same)
  | identified unknown known => exact .identified (same ▸ unknown) known
  | delivered payloads known kept =>
    exact .delivered payloads (isIdentified_of_identity_eq same ▸ known) (kept.trans same)
  | left kept => exact .left (kept.trans same)

theorem hearing (session : Session) (packet : Packet) (now : Instant) :
    session.Hearing (session.handlePacket packet now).1
      (session.handlePacket packet now).2 := by
  unfold handlePacket
  split
  · exact (hearing_onPacket _ packet now).congr rfl
  · exact .silent rfl

/-- What a packet of the peer can change. -/
theorem handlePacket_frame (session : Session) (packet : Packet) (now : Instant) :
    (session.handlePacket packet now).2 =
      { session with
        state := (session.handlePacket packet now).2.state
        identity := (session.handlePacket packet now).2.identity
        pending := (session.handlePacket packet now).2.pending
        history := (session.handlePacket packet now).2.history
        reorder := (session.handlePacket packet now).2.reorder
        roundTrip := (session.handlePacket packet now).2.roundTrip
        outbox := (session.handlePacket packet now).2.outbox
        lastReceivedAt := (session.handlePacket packet now).2.lastReceivedAt } := by
  unfold handlePacket
  split
  · cases packet with
    | hello sequence greeting =>
      simp only [onPacket, onHello]
      split <;> rfl
    | reliable sequence payload =>
      simp only [onPacket, onReliable]
      split
      · rfl
      split
      · rfl
      split <;> rfl
    | _ => rfl
  · rfl

/-- Only an acknowledgement that comes in while the session is open changes what is
pending. -/
theorem pending_handlePacket_eq (session : Session) (packet : Packet) (now : Instant) :
    (session.handlePacket packet now).2.pending =
      match packet with
      | .acknowledge sequence _ =>
        if session.state.isOpen then (session.pending.acknowledge sequence now).2
        else session.pending
      | _ => session.pending := by
  unfold handlePacket
  split
  · cases packet with
    | hello sequence greeting =>
      simp only [onPacket, onHello]
      split <;> rfl
    | reliable sequence payload =>
      simp only [onPacket, onReliable]
      split
      · rfl
      split
      · rfl
      split <;> rfl
    | _ => rfl
  · cases packet <;> rfl

/-- A packet of the peer acknowledges pending packets or leaves them as they are. -/
theorem pending_handlePacket (session : Session) (packet : Packet) (now : Instant) :
    (session.handlePacket packet now).2.pending = session.pending ∨
      ∃ sequence, (session.handlePacket packet now).2.pending =
        (session.pending.acknowledge sequence now).2 := by
  rw [pending_handlePacket_eq]
  cases packet with
  | acknowledge sequence missing =>
    cases session.state.isOpen with
    | true => exact .inr ⟨sequence, rfl⟩
    | false => exact .inl rfl
  | _ => exact .inl rfl

theorem limiter_handlePacket (session : Session) (packet : Packet) (now : Instant) :
    (session.handlePacket packet now).2.limiter = session.limiter := by
  rw [handlePacket_frame]

theorem room_handlePacket (session : Session) (packet : Packet) (now : Instant) :
    (session.handlePacket packet now).2.room = session.room := by
  rw [handlePacket_frame]

theorem samePeer_handlePacket (session : Session) (packet : Packet) (now : Instant) :
    session.SamePeer (session.handlePacket packet now).2 := by
  rw [handlePacket_frame]
  exact ⟨rfl, rfl, rfl⟩

/-! ## Limits and farewells -/

theorem checkRate_eq_ok {session next : Session} {trafficClass : TrafficClass} {now : Instant}
    {decision : RateDecision} (h : session.checkRate trafficClass now = .ok (decision, next)) :
    decision = (session.limiter.check trafficClass now).1 ∧
      next = { session with limiter := (session.limiter.check trafficClass now).2 } := by
  simp only [checkRate] at h
  split at h
  · cases h
    exact ⟨rfl, rfl⟩
  · cases h

theorem samePeer_checkRate {session next : Session} {trafficClass : TrafficClass} {now : Instant}
    {decision : RateDecision} (h : session.checkRate trafficClass now = .ok (decision, next)) :
    session.SamePeer next := by
  rw [(checkRate_eq_ok h).2]
  exact ⟨rfl, rfl, rfl⟩

theorem disconnect_frame (session : Session) (farewell : Option Farewell) :
    (session.disconnect farewell).2 =
      { session with
        outbox := (session.disconnect farewell).2.outbox
        sentDisconnect := (session.disconnect farewell).2.sentDisconnect
        state := (session.disconnect farewell).2.state } := by
  unfold disconnect
  split <;> rfl

theorem samePeer_disconnect (session : Session) (farewell : Option Farewell) :
    session.SamePeer (session.disconnect farewell).2 := by
  rw [disconnect_frame]
  exact ⟨rfl, rfl, rfl⟩

end Session

end SessionLayer
