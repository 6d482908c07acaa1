import SessionLayer.Proofs.Delivery.Pending
import SessionLayer.Proofs.Endpoint.Step
import SessionLayer.Proofs.Packet.Numbered

/-!
# What sessions queue

Whatever a session does, it only adds datagrams to its outbox (`Session.Queues`).
`Session.Does` lists what it may do and go on, next to `Ending`, which lists how it ends.
A session that goes on queues no farewell as long as none of the packets that it may send
again is one; `Session.Does.exists_goesOn` says that this stays so. A session that ends queues
at most one datagram, and none if its peer has left: `Ending.exists_queues`.
-/

namespace SessionLayer

/-- A datagram that ends a session. -/
def IsFarewell (datagram : Bytes) : Prop := PacketKind.peek datagram = .ok .disconnect

theorem isFarewell_tag (kind : PacketKind) (body : Bytes) :
    IsFarewell (kind.tag :: body) ↔ kind = .disconnect := by
  rw [IsFarewell, PacketKind.peek, PacketKind.ofTag_tag, Except.ok.injEq]

theorem isFarewell_encode {packet : Packet} {datagram : Bytes}
    (written : packet.encode = .ok datagram) :
    IsFarewell datagram ↔ packet.kind = .disconnect := by
  obtain ⟨body, -, rfl⟩ := Except.map_eq_ok.mp written
  exact isFarewell_tag packet.kind body

namespace Session

/-- The session has added these datagrams to its outbox. -/
def Queues (session : Session) (datagrams : List Bytes) (next : Session) : Prop :=
  next.outbox.toList = session.outbox.toList ++ datagrams

/-- What a session may do and go on. -/
inductive Does (session : Session) : Session → Prop
  | checked {next : Session} {trafficClass : TrafficClass} {now : Instant}
      {decision : RateDecision} :
    session.checkRate trafficClass now = .ok (decision, next) → Does session next
  | heard (packet : Packet) (now : Instant) :
    Endpoint.peerFarewell? (session.handlePacket packet now).1 = none →
    Does session (session.handlePacket packet now).2
  | sent {next : Session} {payload : Payload} {reliable : Bool} {now : Instant}
      {answer : Except SessionFault (Option Sequence)} :
    session.send payload reliable now = .ok (answer, next) → Does session next
  | kept {next : Session} {now : Instant} {upkeep : Upkeep} :
    session.maintain now = .ok (upkeep, next) → upkeep.health = .alive → Does session next
  | seated (room : RoomKey) : Does session (session.setRoom room)
  | unseated : Does session session.clearRoom

theorem Does.samePeer {session next : Session} (does : session.Does next) :
    session.SamePeer next := by
  cases does with
  | checked checked => exact samePeer_checkRate checked
  | heard packet now _ => exact samePeer_handlePacket session packet now
  | sent returned => exact (sending returned).samePeer
  | kept returned _ => exact (looking returned).samePeer
  | seated room | unseated => exact ⟨rfl, rfl, rfl⟩

/-- A session that nobody has ended: its stage tells whether the client is identified, and
nothing that it may send again ends it. -/
structure Steady (session : Session) : Prop where
  stage : session.state = if session.isIdentified then .identified else .unidentified
  common : ∀ packet ∈ session.pending.packets, ¬ IsFarewell packet.bytes

theorem Steady.of_create {client : ClientId} {remote : Address} {settings : SessionSettings}
    {flood : FloodSettings} {now : Instant} {session : Session}
    (created : create client remote settings flood now = .ok session) : session.Steady := by
  rw [create_eq_ok created]
  exact ⟨rfl, nofun⟩

theorem Steady.of_eq {session next : Session} (steady : session.Steady)
    (state : next.state = session.state) (identity : next.identity = session.identity)
    (pending : next.pending.packets.map PendingPacket.bytes =
      session.pending.packets.map PendingPacket.bytes) : next.Steady where
  stage := by rw [state, isIdentified_of_identity_eq identity, steady.stage]
  common := by
    intro packet present
    have same : packet.bytes ∈ session.pending.packets.map PendingPacket.bytes :=
      pending ▸ List.mem_map_of_mem present
    obtain ⟨old, known, bytes⟩ := List.mem_map.mp same
    exact bytes ▸ steady.common old known

/-- The session queues these datagrams and goes on. -/
structure GoesOn (session : Session) (datagrams : List Bytes) (next : Session) : Prop where
  queues : session.Queues datagrams next
  common : session.Steady → ∀ datagram ∈ datagrams, ¬ IsFarewell datagram
  steady : session.Steady → next.Steady

variable {session middle next : Session} {first second datagrams : List Bytes}

theorem GoesOn.trans (left : session.GoesOn first middle) (right : middle.GoesOn second next) :
    session.GoesOn (first ++ second) next where
  queues := by
    have queues := right.queues
    rw [Queues, left.queues, List.append_assoc] at queues
    exact queues
  common steady datagram among :=
    (List.mem_append.mp among).elim (left.common steady datagram)
      (right.common (left.steady steady) datagram)
  steady := right.steady ∘ left.steady

/-- Most of a session has nothing to do with what it queues. -/
theorem GoesOn.of_eq (outbox : next.outbox = session.outbox) (state : next.state = session.state)
    (identity : next.identity = session.identity)
    (pending : next.pending.packets.map PendingPacket.bytes =
      session.pending.packets.map PendingPacket.bytes) : session.GoesOn [] next where
  queues := by rw [Queues, outbox, List.append_nil]
  common _ _ none := absurd none List.not_mem_nil
  steady steady := steady.of_eq state identity pending

theorem GoesOn.then_eq (goesOn : session.GoesOn datagrams middle)
    (outbox : next.outbox = middle.outbox) (state : next.state = middle.state)
    (identity : next.identity = middle.identity)
    (pending : next.pending.packets.map PendingPacket.bytes =
      middle.pending.packets.map PendingPacket.bytes) : session.GoesOn datagrams next :=
  List.append_nil datagrams ▸ goesOn.trans (.of_eq outbox state identity pending)

theorem goesOn_post (session : Session) {datagram : Bytes} (common : ¬ IsFarewell datagram) :
    session.GoesOn [datagram] (session.post datagram) where
  queues := Queue.toList_push _ _
  common _ _ only := List.mem_singleton.mp only ▸ common
  steady steady := steady.of_eq rfl rfl rfl

theorem goesOn_postAck (session : Session) (sequence : Sequence) :
    ∃ datagrams, session.GoesOn datagrams (session.postAck sequence) := by
  rw [postAck_eq]
  exact ⟨_, goesOn_post session (by rw [isFarewell_tag]; decide)⟩

theorem goesOn_track (session : Session) (sequence : Sequence) {datagram : Bytes} (now : Instant)
    (common : ¬ IsFarewell datagram) :
    session.GoesOn [datagram] (session.track sequence datagram now) where
  queues := Queue.toList_push _ _
  common _ _ only := List.mem_singleton.mp only ▸ common
  steady steady :=
    { stage := steady.stage
      common := by
        intro packet present
        rcases List.mem_append.mp (PendingList.subset_record _ _ _ _ present) with old | new
        · exact steady.common packet old
        · rw [List.mem_singleton.mp new]
          exact common }

/-! ## Packets from the peer -/

theorem goesOn_onHello (session : Session) (sequence : Sequence) (greeting : Hello) :
    ∃ datagrams, session.GoesOn datagrams (session.onHello sequence greeting).2 := by
  obtain ⟨datagrams, acked⟩ := goesOn_postAck session sequence
  unfold onHello
  simp only
  split
  · exact ⟨_, acked⟩
  · exact ⟨datagrams,
      { queues := acked.queues
        common := acked.common
        steady := fun steady => ⟨rfl, (acked.steady steady).common⟩ }⟩

theorem goesOn_onReliable (session : Session) (sequence : Sequence) (payload : Payload)
    (now : Instant) :
    ∃ datagrams, session.GoesOn datagrams (session.onReliable sequence payload now).2 := by
  obtain ⟨datagrams, acked⟩ := goesOn_postAck session sequence
  unfold onReliable
  split
  · exact ⟨_, .of_eq rfl rfl rfl rfl⟩
  simp only
  split
  · exact ⟨_, acked.then_eq rfl rfl rfl rfl⟩
  split
  · exact ⟨_, acked.then_eq rfl rfl rfl rfl⟩
  · exact ⟨_, acked.then_eq rfl rfl rfl rfl⟩

theorem goesOn_handlePacket {packet : Packet} {now : Instant}
    (stays : Endpoint.peerFarewell? (session.handlePacket packet now).1 = none) :
    ∃ datagrams, session.GoesOn datagrams (session.handlePacket packet now).2 := by
  unfold handlePacket at stays ⊢
  split at stays
  · rename_i isOpen
    rw [if_pos isOpen]
    have touched : session.GoesOn [] { session with lastReceivedAt := now } :=
      .of_eq rfl rfl rfl rfl
    have onward {next : Session}
        (goes : ∃ datagrams, GoesOn { session with lastReceivedAt := now } datagrams next) :
        ∃ datagrams, session.GoesOn datagrams next :=
      goes.imp fun _ goesOn => touched.trans goesOn
    cases packet with
    | hello sequence greeting => exact onward (goesOn_onHello _ sequence greeting)
    | acknowledge sequence missing =>
      have same := PendingList.map_acknowledgeIn PendingPacket.bytes (fun _ => rfl) sequence now
        session.pending.packets
      exact ⟨[], .of_eq rfl rfl rfl same⟩
    | ping sequence => exact onward (goesOn_postAck _ sequence)
    | reliable sequence payload => exact onward (goesOn_onReliable _ sequence payload now)
    | unreliable payload => exact ⟨[], touched⟩
    | disconnect farewell => cases stays
  · rename_i closed
    rw [if_neg closed]
    exact ⟨[], .of_eq rfl rfl rfl rfl⟩

/-- Only a farewell says that the peer has left. -/
theorem eq_disconnect_of_peerLeft {packet : Packet} {now : Instant} {farewell : Option Farewell}
    (left : .peerLeft farewell ∈ (session.onPacket packet now).1) :
    packet = .disconnect farewell := by
  cases packet with
  | disconnect other =>
    cases List.mem_singleton.mp left
    rfl
  | hello sequence greeting =>
    simp only [onPacket, onHello] at left
    split at left <;> simp at left
  | reliable sequence payload =>
    simp only [onPacket, onReliable] at left
    split at left
    · cases left
    split at left
    · cases left
    split at left <;> simp at left
  | unreliable payload =>
    simp only [onPacket, onUnreliable] at left
    split at left <;> simp at left
  | acknowledge sequence missing | ping sequence => cases left

theorem handlePacket_of_left {packet : Packet} {now : Instant} {farewell : Option Farewell}
    (left : Endpoint.peerFarewell? (session.handlePacket packet now).1 = some farewell) :
    (session.handlePacket packet now).2 =
      { session with lastReceivedAt := now, state := .disconnecting } := by
  have alone := ((session.hearing packet now).of_peerFarewell? left).1
  unfold handlePacket at alone ⊢
  split at alone
  · rename_i isOpen
    have said := eq_disconnect_of_peerLeft (alone ▸ List.mem_singleton_self _)
    rw [if_pos isOpen, said]
    rfl
  · cases alone

/-! ## Commands and upkeep -/

theorem Sending.goesOn {payload : Payload} {now : Instant} {reliable : Bool}
    {answer : Except SessionFault (Option Sequence)}
    (sending : session.Sending payload now reliable answer next) :
    ∃ datagrams, session.GoesOn datagrams next := by
  cases sending with
  | refused _ | unwritable _ _ | spoiled _ _ _ => exact ⟨[], .of_eq rfl rfl rfl rfl⟩
  | posted _ written =>
    exact ⟨_, goesOn_post session (mt (isFarewell_encode written).mp nofun)⟩
  | @tracked sequence datagram _ _ written =>
    have numbered : session.GoesOn [] { session with outgoingSequence := sequence } :=
      .of_eq rfl rfl rfl rfl
    exact ⟨_, numbered.trans
      (goesOn_track _ sequence now (mt (isFarewell_encode written).mp nofun))⟩

theorem goesOn_resendOverdue (session : Session) (now : Instant) :
    session.GoesOn ((session.pending.overdue now session.settings.retransmitAfter).map
      PendingPacket.bytes) (session.resendOverdue now).2 where
  queues := Queue.toList_append _ _
  common steady datagram among := by
    obtain ⟨packet, overdue, rfl⟩ := List.mem_map.mp among
    exact steady.common packet (List.mem_filter.mp overdue).1
  steady steady := steady.of_eq rfl rfl
    (PendingList.map_resendOverdue PendingPacket.bytes now (fun _ => rfl) _ _)

theorem Looking.goesOn {now : Instant} {upkeep : Upkeep}
    (looking : session.Looking now upkeep next) : ∃ datagrams, session.GoesOn datagrams next := by
  cases looking with
  | @keptUp sequence _ _ _ _ _ =>
    have numbered : session.GoesOn _
        { (session.resendOverdue now).2 with outgoingSequence := sequence } :=
      (goesOn_resendOverdue session now).then_eq rfl rfl rfl rfl
    have common : ¬ IsFarewell (PacketKind.ping.tag :: Wire.u16be sequence) := by
      rw [isFarewell_tag]
      decide
    have pinged := numbered.trans (goesOn_track _ sequence now common)
    rw [expireGaps_frame]
    exact ⟨_, pinged.then_eq rfl rfl rfl rfl⟩
  | _ => exact ⟨[], .of_eq rfl rfl rfl rfl⟩

theorem Does.exists_goesOn (does : session.Does next) :
    ∃ datagrams, session.GoesOn datagrams next := by
  cases does with
  | checked checked =>
    rw [(checkRate_eq_ok checked).2]
    exact ⟨[], .of_eq rfl rfl rfl rfl⟩
  | heard packet now stays => exact goesOn_handlePacket stays
  | sent returned => exact (sending returned).goesOn
  | kept returned _ => exact (looking returned).goesOn
  | seated room | unseated => exact ⟨[], .of_eq rfl rfl rfl rfl⟩

end Session

/-- A session that ends queues one datagram at most, and none if its peer has left. -/
theorem Ending.exists_queues {session next : Session} {cause : DisconnectCause}
    (ending : Ending session cause next) :
    ∃ datagrams, session.Queues datagrams next ∧ datagrams.length ≤ 1 ∧
      ∀ farewell, cause = .byPeer farewell → datagrams = [] := by
  have said (farewell : Farewell) : ∃ datagrams,
      session.Queues datagrams (session.disconnect (some farewell)).2 ∧ datagrams.length ≤ 1 := by
    unfold Session.disconnect
    split
    · exact ⟨[], (List.append_nil _).symm, Nat.zero_le 1⟩
    · exact ⟨_, Queue.toList_push _ _, Nat.le_refl 1⟩
  cases ending with
  | left packet now left =>
    rw [Session.handlePacket_of_left left]
    exact ⟨[], (List.append_nil _).symm, Nat.zero_le 1, fun _ _ => rfl⟩
  | idle _ _ => exact ⟨[], (List.append_nil _).symm, Nat.zero_le 1, fun _ _ => rfl⟩
  | rateLimited farewell | banned farewell | byServer farewell =>
    obtain ⟨datagrams, queues, short⟩ := said farewell
    exact ⟨datagrams, queues, short, nofun⟩
  | unresponsive _ =>
    obtain ⟨datagrams, queues, short⟩ := said (.plain .none)
    exact ⟨datagrams, queues, short, nofun⟩

end SessionLayer
