import SessionLayer.Proofs.Delivery.Pending
import SessionLayer.Proofs.Delivery.Spaced
import SessionLayer.Proofs.Packet.Numbered
import SessionLayer.Proofs.Session.Cases

/-!
# Two sessions and the way between them

A sender and a receiver are joined by a way that may lose datagrams but keeps their
order. Every packet that the sender numbers has a place among all of them, and
`Link.handed` notes of every payload that the receiver hands up the place of the packet
that it came in.

`Link.Sound` is what every move preserves: what is under way is a copy of a packet that
was issued, the receiver remembers the last numbers that it accepted, and a packet that
sets out is one of the last that were issued.
-/

namespace SessionLayer

/-- The session after its peer has greeted, and after its answer was fetched. -/
def Session.greeted (session : Session) (sequence : Sequence) (greeting : Hello)
    (now : Instant) : Session :=
  (session.handlePacket (.hello sequence greeting) now).2.takeOutgoing.2

/-- A sender and a receiver with what is under way between them. -/
structure Link where
  sender : Session
  receiver : Session
  /-- The packets that the sender gave numbers, oldest first. -/
  issued : List Packet
  /-- The datagrams to the receiver, each with the place of its packet. -/
  outbound : List (Nat × Bytes)
  /-- The datagrams to the sender. -/
  inbound : List Bytes
  /-- The payloads that the receiver handed up, each with the place of its packet. -/
  handed : List (Nat × Payload)

namespace Link

/-- What may happen next. -/
inductive Move
  /-- The sender is asked to send a payload reliably. -/
  | send (payload : Payload) (now : Instant)
  /-- The sender is looked after. -/
  | maintain (now : Instant)
  /-- The first datagram to the receiver arrives. -/
  | deliver (now : Instant)
  /-- A datagram to the receiver is lost. -/
  | lose (index : Nat)
  /-- The first datagram to the sender arrives. -/
  | answer (now : Instant)
  /-- A datagram to the sender is lost. -/
  | loseAnswer (index : Nat)
  deriving DecidableEq

/-- When a move takes place. A loss is noticed at no time. -/
def Move.time? : Move → Option Instant
  | .send _ now | .maintain now | .deliver now | .answer now => some now
  | .lose _ | .loseAnswer _ => none

/-- The two sides before the first payload. The receiver knows its peer from a greeting
that is numbered just before the first packet of the sender. -/
def start (sender fresh : Session) (greeting : Hello) (now : Instant) : Link where
  sender := sender
  receiver := fresh.greeted sender.outgoingSequence greeting now
  issued := []
  outbound := []
  inbound := []
  handed := []

/-- A sender that has sent nothing yet and a receiver that was not greeted yet, which
hands up payloads in the order in which they come. -/
structure Ready (settings : SessionSettings) (sender fresh : Session) : Prop where
  pending : sender.pending = .empty settings.pendingCapacity
  emptied : sender.outbox = .empty
  opened : fresh.state.isOpen = true
  unknown : fresh.isIdentified = false
  configured : fresh.settings = settings
  history : fresh.history = .empty settings.receivedHistory
  unordered : settings.messageOrdering = false

/-- The places of the packets that the sender would send again, oldest first. The
pending packets are the last ones that were issued. -/
def overduePlaces (link : Link) (now : Instant) : List Nat :=
  ((link.sender.pending.packets.zipIdx
      (link.issued.length - link.sender.pending.packets.length)).filter fun packet =>
    packet.1.isOverdue now link.sender.settings.retransmitAfter).map Prod.snd

/-- The datagrams of the sender set out, with the places of their packets. -/
def ship (link : Link) (sender : Session) (places : List Nat) : Link :=
  { link with
    sender := sender.takeOutgoing.2
    outbound := link.outbound ++ places.zip sender.takeOutgoing.1 }

/-- The sender is asked to send a payload reliably. -/
def send (link : Link) (payload : Payload) (now : Instant) : Except Halt Link := do
  let (answer, sender) ← link.sender.send payload true now
  match answer with
  | .ok (some sequence) =>
    return { link with issued := link.issued ++ [Packet.reliable sequence payload] }.ship sender
      [link.issued.length]
  | _ => return { link with sender }

/-- What a sender numbers when it is looked after: a ping, if it sends anything. -/
def pings (sender : Session) : List Packet :=
  if sender.outbox.toList.isEmpty then [] else [.ping sender.outgoingSequence]

/-- The sender is looked after: it may send again what is overdue, and a ping. -/
def maintain (link : Link) (now : Instant) : Except Halt Link := do
  let (_, sender) ← link.sender.maintain now
  return { link with issued := link.issued ++ pings sender }.ship sender
    (link.overduePlaces now ++ [link.issued.length])

/-- The first datagram to the receiver arrives. -/
def deliver (link : Link) (now : Instant) : Link :=
  match link.outbound with
  | [] => link
  | (place, datagram) :: rest =>
    match Packet.decode datagram with
    | .error _ => { link with outbound := rest }
    | .ok packet =>
      let (handed, receiver) := link.receiver.handlePacket packet now
      { link with
        receiver := receiver.takeOutgoing.2
        outbound := rest
        inbound := link.inbound ++ receiver.takeOutgoing.1
        handed := link.handed ++ handed.filterMap fun
          | .deliver payload _ => some (place, payload)
          | _ => none }

/-- The first datagram to the sender arrives. -/
def answer (link : Link) (now : Instant) : Link :=
  match link.inbound with
  | [] => link
  | datagram :: rest =>
    match Packet.decode datagram with
    | .error _ => { link with inbound := rest }
    | .ok packet =>
      { link with sender := (link.sender.handlePacket packet now).2, inbound := rest }

/-- One move. -/
def step (link : Link) : Move → Except Halt Link
  | .send payload now => link.send payload now
  | .maintain now => link.maintain now
  | .deliver now => .ok (link.deliver now)
  | .lose index => .ok { link with outbound := link.outbound.eraseIdx index }
  | .answer now => .ok (link.answer now)
  | .loseAnswer index => .ok { link with inbound := link.inbound.eraseIdx index }

/-- One move after the other. -/
def run (link : Link) : List Move → Except Halt Link
  | [] => .ok link
  | move :: rest => do (← link.step move).run rest

/-! ## The invariant -/

/-- The number of the packet at a place. -/
def sequenceAt (issued : List Packet) (place : Nat) : Sequence :=
  (issued[place]?.bind Packet.sequence?).getD 0

/-- The pending packets are the last ones issued, with the bytes that they had. -/
def Remembered (issued : List Packet) (packets : List PendingPacket) : Prop :=
  ∃ older recent, issued = older ++ recent ∧
    recent.map Packet.encode = packets.map fun packet => .ok packet.bytes

/-- A sender whose list has `window` places, a receiver whose history has `memory`
places and had accepted `first` before, and what is under way between them. -/
structure Sound (window memory : Nat) (first : Sequence) (link : Link) : Prop where
  /-- Only payloads and pings are numbered. -/
  numbered : ∀ packet ∈ link.issued, ∃ sequence,
    packet = .ping sequence ∨ ∃ payload, packet = .reliable sequence payload
  remembered : Remembered link.issued link.sender.pending.packets
  sized : link.sender.pending.capacity = window
  few : link.sender.pending.packets.length ≤ window
  emptied : link.sender.outbox = .empty
  /-- What is under way is a copy of what was issued. -/
  copies : ∀ place datagram, (place, datagram) ∈ link.outbound →
    ∃ packet, link.issued[place]? = some packet ∧ packet.encode = .ok datagram
  acks : ∀ datagram ∈ link.inbound, ∃ sequence, (Packet.ack sequence).encode = .ok datagram
  opened : link.receiver.state.isOpen = true
  known : link.receiver.isIdentified = true
  unordered : link.receiver.settings.messageOrdering = false
  drained : link.receiver.outbox = .empty
  deep : link.receiver.history.capacity = memory
  payloads : ∀ place payload, (place, payload) ∈ link.handed →
    ∃ sequence, link.issued[place]? = some (.reliable sequence payload)
  accepted : link.receiver.history.Records
    (first :: link.handed.map fun item => sequenceAt link.issued item.1)
  /-- A packet that sets out was one of the last that were issued. -/
  near : (link.handed.map Prod.fst ++ link.outbound.map Prod.fst).Pairwise (· < · + window)

variable {window memory : Nat} {first : Sequence} {link : Link}

/-! ## What the sender remembers -/

/-- Only the bytes of the pending packets matter. -/
theorem Remembered.congr {issued : List Packet} {packets others : List PendingPacket}
    (remembered : Remembered issued packets)
    (same : others.map PendingPacket.bytes = packets.map PendingPacket.bytes) :
    Remembered issued others := by
  rcases remembered with ⟨older, recent, split, bytes⟩
  have lifted := congrArg (List.map (Except.ok (ε := WireFault))) same
  simp only [List.map_map] at lifted
  exact ⟨older, recent, split, bytes.trans lifted.symm⟩

/-- The place of a pending packet is the place of the packet that was issued. -/
theorem Remembered.copy {issued : List Packet} {packets : List PendingPacket}
    (remembered : Remembered issued packets) {pending : PendingPacket} {place : Nat}
    (found : (pending, place) ∈ packets.zipIdx (issued.length - packets.length)) :
    ∃ packet, issued[place]? = some packet ∧ packet.encode = .ok pending.bytes := by
  rcases remembered with ⟨older, recent, rfl, same⟩
  have sizes := congrArg List.length same
  simp only [List.length_map] at sizes
  have behind : (older ++ recent).length - packets.length = older.length := by
    rw [List.length_append]
    omega
  rw [behind, List.mk_mem_zipIdx_iff_le_and_getElem?_sub] at found
  rcases found with ⟨after, found⟩
  have here := congrArg (·[place - older.length]?) same
  simp only [List.getElem?_map, found, Option.map_some, Option.map_eq_some_iff] at here
  rcases here with ⟨packet, issued, written⟩
  exact ⟨packet, by rw [List.getElem?_append_right after, issued], written⟩

theorem Remembered.record {issued : List Packet} {list : PendingList} {packet : Packet}
    {bytes : Bytes} (remembered : Remembered issued list.packets)
    (written : packet.encode = .ok bytes) (sequence : Sequence) (now : Instant) :
    Remembered (issued ++ [packet]) (list.record sequence bytes now).2.packets := by
  rcases remembered with ⟨older, recent, rfl, same⟩
  have longer : (recent ++ [packet]).map Packet.encode =
      (list.packets ++ [PendingPacket.fresh sequence bytes now]).map
        (fun packet => .ok packet.bytes) := by
    rw [List.map_append, List.map_append, same, List.map_singleton, written]
    rfl
  simp only [PendingList.record]
  split
  · refine ⟨older ++ (recent ++ [packet]).take 1, (recent ++ [packet]).tail, ?_, ?_⟩
    · rw [← List.drop_one, List.append_assoc, List.append_assoc, List.take_append_drop]
    · rw [List.map_tail, longer, List.map_tail]
  · exact ⟨older, recent ++ [packet], List.append_assoc .., longer⟩

/-! ## The sender moves -/

/-- What was handed up or is under way was issued. -/
theorem Sound.below (sound : link.Sound window memory first) :
    ∀ place ∈ link.handed.map Prod.fst ++ link.outbound.map Prod.fst,
      place < link.issued.length := by
  intro place present
  rcases List.mem_append.mp present with present | present
  · obtain ⟨⟨place, payload⟩, item, rfl⟩ := List.mem_map.mp present
    obtain ⟨sequence, found⟩ := sound.payloads place payload item
    exact (List.getElem?_eq_some_iff.mp found).1
  · obtain ⟨⟨place, datagram⟩, item, rfl⟩ := List.mem_map.mp present
    obtain ⟨packet, found, -⟩ := sound.copies place datagram item
    exact (List.getElem?_eq_some_iff.mp found).1

/-- Packets that are issued later change nothing about the numbers of earlier ones. -/
theorem sequenceAt_append {issued : List Packet} {place : Nat} (below : place < issued.length)
    (more : List Packet) : sequenceAt (issued ++ more) place = sequenceAt issued place := by
  rw [sequenceAt, sequenceAt, List.getElem?_append_left below]

/-- Packets set out that are among the last ones which were issued. -/
theorem Sound.ship (sound : link.Sound window memory first) {sender : Session}
    {more : List Packet} {places : List Nat} (shipped : List (Nat × Bytes))
    (numbered : ∀ packet ∈ more, ∃ sequence,
      packet = .ping sequence ∨ ∃ payload, packet = .reliable sequence payload)
    (remembered : Remembered (link.issued ++ more) sender.pending.packets)
    (sized : sender.pending.capacity = window)
    (few : sender.pending.packets.length ≤ window)
    (zipped : places.zip sender.takeOutgoing.1 = shipped)
    (copies : ∀ place datagram, (place, datagram) ∈ shipped →
      ∃ packet, (link.issued ++ more)[place]? = some packet ∧ packet.encode = .ok datagram)
    (recent : ∀ place ∈ shipped.map Prod.fst, link.issued.length ≤ place + window)
    (near : (shipped.map Prod.fst).Pairwise (· < · + window)) :
    ({ link with issued := link.issued ++ more }.ship sender places).Sound window memory
      first where
  numbered packet present := by
    rcases List.mem_append.mp present with old | new
    · exact sound.numbered packet old
    · exact numbered packet new
  remembered := remembered
  sized := sized
  few := few
  emptied := rfl
  copies place datagram present := by
    simp only [Link.ship, zipped] at present
    rcases List.mem_append.mp present with old | new
    · obtain ⟨packet, found, written⟩ := sound.copies place datagram old
      exact ⟨packet, List.getElem?_append_left (List.getElem?_eq_some_iff.mp found).1 ▸ found,
        written⟩
    · exact copies place datagram new
  acks := sound.acks
  opened := sound.opened
  known := sound.known
  unordered := sound.unordered
  drained := sound.drained
  deep := sound.deep
  payloads place payload present := by
    obtain ⟨sequence, found⟩ := sound.payloads place payload present
    exact ⟨sequence,
      List.getElem?_append_left (List.getElem?_eq_some_iff.mp found).1 ▸ found⟩
  accepted := by
    have same : link.handed.map (fun item => sequenceAt (link.issued ++ more) item.1) =
        link.handed.map fun item => sequenceAt link.issued item.1 := by
      apply List.map_congr_left
      intro item present
      exact sequenceAt_append (sound.below item.1
        (List.mem_append_left _ (List.mem_map_of_mem present))) more
    show link.receiver.history.Records (first ::
      link.handed.map fun item => sequenceAt (link.issued ++ more) item.1)
    rw [same]
    exact sound.accepted
  near := by
    simp only [Link.ship, zipped, List.map_append]
    rw [← List.append_assoc, List.pairwise_append]
    refine ⟨sound.near, near, fun earlier present place new => ?_⟩
    exact Nat.lt_of_lt_of_le (sound.below earlier present) (recent place new)

theorem Sound.send {next : Link} {payload : Payload} {now : Instant}
    (sound : link.Sound window memory first) (h : link.send payload now = .ok next) :
    next.Sound window memory first := by
  simp only [Link.send, Halt.bind_eq_ok] at h
  rcases h with ⟨⟨answer, sender⟩, returned, h⟩
  cases Session.sending returned with
  | refused _ =>
    cases h
    exact { sound with }
  | spoiled _ _ _ =>
    cases h
    exact { sound with }
  | @tracked sequence datagram _ _ written =>
    cases h
    have emptied : link.sender.outbox = .empty := sound.emptied
    refine sound.ship [(link.issued.length, datagram)] ?_ ?_ ?_ ?_ ?_ ?_ ?_ ?_
    · intro packet present
      exact ⟨sequence, .inr ⟨payload, List.mem_singleton.mp present⟩⟩
    · exact sound.remembered.record written sequence now
    · simp only [Session.track, PendingList.capacity_record]
      exact sound.sized
    · rw [← sound.sized]
      exact PendingList.length_record_le (sound.sized ▸ sound.few) _ _ _
    · simp [Session.takeOutgoing, Session.track, Session.post, emptied]
    · intro place bytes present
      cases List.mem_singleton.mp present
      exact ⟨_, List.getElem?_concat_length, written⟩
    · intro place present
      cases List.mem_singleton.mp present
      exact Nat.le_add_right ..
    · exact List.pairwise_singleton ..

/-- The overdue packets with their places. -/
def overdue (link : Link) (now : Instant) : List (PendingPacket × Nat) :=
  (link.sender.pending.packets.zipIdx
    (link.issued.length - link.sender.pending.packets.length)).filter fun packet =>
      packet.1.isOverdue now link.sender.settings.retransmitAfter

theorem map_fst_overdue (link : Link) (now : Instant) :
    (link.overdue now).map Prod.fst =
      link.sender.pending.overdue now link.sender.settings.retransmitAfter := by
  rw [PendingList.overdue]
  conv => rhs; rw [← List.zipIdx_map_fst
    (link.issued.length - link.sender.pending.packets.length) link.sender.pending.packets]
  rw [List.filter_map]
  rfl

/-- What is sent again has the places of the overdue packets. -/
theorem zip_overduePlaces (link : Link) (now : Instant) :
    (link.overduePlaces now).zip ((link.sender.pending.overdue now
        link.sender.settings.retransmitAfter).map PendingPacket.bytes) =
      (link.overdue now).map fun packet => (packet.2, packet.1.bytes) := by
  rw [← map_fst_overdue, List.map_map]
  exact List.zip_map'

/-- A packet that is still pending is one of the last `window` that were issued. -/
theorem Sound.mem_overdue (sound : link.Sound window memory first) {now : Instant}
    {pending : PendingPacket} {place : Nat} (overdue : (pending, place) ∈ link.overdue now) :
    link.issued.length ≤ place + window ∧ place < link.issued.length ∧
      ∃ packet, link.issued[place]? = some packet ∧ packet.encode = .ok pending.bytes := by
  have found := (List.mem_filter.mp overdue).1
  have after := List.le_snd_of_mem_zipIdx found
  have few := sound.few
  obtain ⟨packet, issued, written⟩ := sound.remembered.copy found
  exact ⟨by omega, (List.getElem?_eq_some_iff.mp issued).1, packet, issued, written⟩

theorem Sound.near_overdue (sound : link.Sound window memory first) (now : Instant) :
    ((link.overdue now).map Prod.snd).Pairwise (· < · + window) := by
  rw [List.pairwise_map, List.pairwise_iff_getElem]
  intro i j hi hj _
  obtain ⟨-, left, -⟩ := sound.mem_overdue (List.getElem_mem hi)
  obtain ⟨right, -⟩ := sound.mem_overdue (List.getElem_mem hj)
  exact Nat.lt_of_lt_of_le left right

/-- What a sender sends when it is looked after: what is overdue again, and a ping. -/
def resent (link : Link) (now : Instant) (sequence : Sequence) : List (Nat × Bytes) :=
  (link.overdue now).map (fun packet => (packet.2, packet.1.bytes)) ++
    [(link.issued.length, PacketKind.ping.tag :: Wire.u16be sequence)]

theorem zip_resent (link : Link) (now : Instant) (sequence : Sequence) :
    (link.overduePlaces now ++ [link.issued.length]).zip
        ((link.sender.pending.overdue now link.sender.settings.retransmitAfter).map
            PendingPacket.bytes ++ [PacketKind.ping.tag :: Wire.u16be sequence]) =
      link.resent now sequence := by
  rw [List.zip_append, zip_overduePlaces]
  · rfl
  · rw [overduePlaces, List.length_map, List.length_map, ← map_fst_overdue, List.length_map]
    rfl

theorem map_fst_resent (link : Link) (now : Instant) (sequence : Sequence) :
    (link.resent now sequence).map Prod.fst =
      (link.overdue now).map Prod.snd ++ [link.issued.length] := by
  rw [resent, List.map_append, List.map_map]
  rfl

theorem Sound.copy_of_mem_resent (sound : link.Sound window memory first) {now : Instant}
    {sequence : Sequence} {place : Nat} {datagram : Bytes}
    (present : (place, datagram) ∈ link.resent now sequence) :
    ∃ packet, (link.issued ++ [Packet.ping sequence])[place]? = some packet ∧
      packet.encode = .ok datagram := by
  rcases List.mem_append.mp present with old | new
  · obtain ⟨⟨pending, place⟩, overdue, same⟩ := List.mem_map.mp old
    cases same
    obtain ⟨-, below, packet, found, written⟩ := sound.mem_overdue overdue
    exact ⟨packet, List.getElem?_append_left below ▸ found, written⟩
  · cases List.mem_singleton.mp new
    exact ⟨_, List.getElem?_concat_length, Session.encode_ping sequence⟩

theorem Sound.recent_resent (sound : link.Sound window memory first) (now : Instant)
    (sequence : Sequence) :
    ∀ place ∈ (link.resent now sequence).map Prod.fst, link.issued.length ≤ place + window := by
  intro place present
  rw [map_fst_resent] at present
  rcases List.mem_append.mp present with old | new
  · obtain ⟨⟨pending, place⟩, overdue, rfl⟩ := List.mem_map.mp old
    exact (sound.mem_overdue overdue).1
  · cases List.mem_singleton.mp new
    exact Nat.le_add_right ..

theorem Sound.near_resent (sound : link.Sound window memory first) (now : Instant)
    (sequence : Sequence) :
    ((link.resent now sequence).map Prod.fst).Pairwise (· < · + window) := by
  rw [map_fst_resent, List.pairwise_append]
  refine ⟨sound.near_overdue now, List.pairwise_singleton .., fun earlier old last new => ?_⟩
  cases List.mem_singleton.mp new
  obtain ⟨⟨pending, earlier⟩, overdue, rfl⟩ := List.mem_map.mp old
  exact Nat.lt_add_right _ (sound.mem_overdue overdue).2.1

theorem pings_of_ne_nil {sender : Session} (posted : sender.outbox.toList ≠ []) :
    pings sender = [.ping sender.outgoingSequence] := by
  simp [pings, posted]

/-- A sender that sends nothing changes nothing. -/
theorem Sound.maintain_silent (sound : link.Sound window memory first) (places : List Nat) :
    ({ link with issued := link.issued ++ pings link.sender }.ship link.sender places).Sound
      window memory first := by
  have emptied : link.sender.outbox = .empty := sound.emptied
  have none : pings link.sender = [] := by simp [pings, emptied]
  refine sound.ship [] ?_ ?_ sound.sized sound.few ?_ ?_ ?_ .nil
  · simp [none]
  · simpa [none] using sound.remembered
  · simp [Session.takeOutgoing, emptied]
  · intro _ _ present
    cases present
  · intro _ present
    cases present

/-- A sender that sends something sends copies of packets that are pending, and a ping. -/
theorem Sound.maintain_resent (sound : link.Sound window memory first) {sender : Session}
    (sequence : Sequence) {now : Instant} (number : sender.outgoingSequence = sequence)
    (pending : sender.pending = ((link.sender.pending.resendOverdue now
      link.sender.settings.retransmitAfter).record sequence
        (PacketKind.ping.tag :: Wire.u16be sequence) now).2)
    (sent : sender.outbox.toList =
      (link.sender.pending.overdue now link.sender.settings.retransmitAfter).map
        PendingPacket.bytes ++ [PacketKind.ping.tag :: Wire.u16be sequence]) :
    ({ link with issued := link.issued ++ pings sender }.ship sender
      (link.overduePlaces now ++ [link.issued.length])).Sound window memory first := by
  have pinged : pings sender = [.ping sequence] := by
    rw [pings_of_ne_nil (by simp [sent]), number]
  have again : Remembered link.issued
      (link.sender.pending.resendOverdue now link.sender.settings.retransmitAfter).packets :=
    sound.remembered.congr (PendingList.map_resendOverdue _ now (fun _ => rfl) ..)
  have few : (link.sender.pending.resendOverdue now
      link.sender.settings.retransmitAfter).packets.length ≤ link.sender.pending.capacity := by
    rw [sound.sized]
    simpa [PendingList.resendOverdue] using sound.few
  rw [pinged]
  refine sound.ship (link.resent now sequence) ?_ ?_ ?_ ?_ ?_
    (fun _ _ present => sound.copy_of_mem_resent present) (sound.recent_resent now sequence)
    (sound.near_resent now sequence)
  · intro packet present
    exact ⟨sequence, .inl (List.mem_singleton.mp present)⟩
  · rw [pending]
    exact again.record (Session.encode_ping sequence) sequence now
  · rw [pending, PendingList.capacity_record]
    exact sound.sized
  · rw [pending, ← sound.sized]
    exact PendingList.length_record_le few _ _ _
  · rw [Session.takeOutgoing, sent]
    exact zip_resent link now sequence

theorem Sound.maintain {next : Link} {now : Instant}
    (sound : link.Sound window memory first) (h : link.maintain now = .ok next) :
    next.Sound window memory first := by
  simp only [Link.maintain, Halt.bind_eq_ok, Halt.pure_eq_ok] at h
  rcases h with ⟨⟨upkeep, sender⟩, returned, rfl⟩
  cases Session.looking returned with
  | shut _ | waiting _ _ _ | idle _ _ _ | unresponsive _ _ _ => exact sound.maintain_silent _
  | @keptUp sequence _ _ _ _ _ =>
    rw [Session.expireGaps_frame]
    refine sound.maintain_resent sequence rfl rfl ?_
    simp only [Session.track, Session.post, Session.resendOverdue, Queue.toList_push,
      Queue.toList_append, sound.emptied, Queue.toList_empty, List.nil_append]

/-! ## The receiver moves -/

/-- A datagram arrives, and at most its own payload is handed up. -/
theorem Sound.receive (sound : link.Sound window memory first) {place : Nat} {datagram : Bytes}
    {rest : List (Nat × Bytes)} {receiver : Session} (payload? : Option Payload)
    (front : link.outbound = (place, datagram) :: rest)
    (opened : receiver.state.isOpen = true) (known : receiver.isIdentified = true)
    (unordered : receiver.settings.messageOrdering = false)
    (deep : receiver.history.capacity = memory)
    (acks : ∀ datagram ∈ receiver.outbox.toList,
      ∃ sequence, (Packet.ack sequence).encode = .ok datagram)
    (issued : ∀ payload, payload? = some payload →
      ∃ sequence, link.issued[place]? = some (.reliable sequence payload))
    (accepted : receiver.history.Records
      (first :: (link.handed ++ payload?.toList.map (place, ·)).map
        fun item => sequenceAt link.issued item.1)) :
    Link.Sound window memory first
      { link with
        receiver := receiver.takeOutgoing.2
        outbound := rest
        inbound := link.inbound ++ receiver.takeOutgoing.1
        handed := link.handed ++ payload?.toList.map (place, ·) } where
  numbered := sound.numbered
  remembered := sound.remembered
  sized := sound.sized
  few := sound.few
  emptied := sound.emptied
  copies place datagram present :=
    sound.copies place datagram (front ▸ List.mem_cons_of_mem _ present)
  acks datagram present := by
    rcases List.mem_append.mp present with old | new
    · exact sound.acks datagram old
    · exact acks datagram new
  opened := opened
  known := known
  unordered := unordered
  drained := rfl
  deep := deep
  payloads other payload present := by
    rcases List.mem_append.mp present with old | new
    · exact sound.payloads other payload old
    · obtain ⟨payload, found, same⟩ := List.mem_map.mp new
      cases same
      exact issued payload (Option.mem_toList.mp found)
  accepted := accepted
  near := by
    have before := sound.near
    rw [front, List.map_cons] at before
    have handed : ((payload?.toList.map (place, ·)).map Prod.fst).Sublist [place] := by
      cases payload? with
      | none => exact List.nil_sublist _
      | some payload => exact List.Sublist.refl _
    rw [List.map_append, List.append_assoc]
    exact before.sublist ((List.Sublist.refl _).append (handed.append (List.Sublist.refl _)))

/-- An acknowledgement is all that a receiver has to send. -/
theorem Sound.acks_postAck (sound : link.Sound window memory first) (sequence : Sequence) :
    ∀ datagram ∈ (link.receiver.postAck sequence).outbox.toList,
      ∃ sequence, (Packet.ack sequence).encode = .ok datagram := by
  intro datagram present
  rw [Session.postAck_eq, Session.post, sound.drained] at present
  cases List.mem_singleton.mp present
  exact ⟨sequence, Packet.encode_ack sequence⟩

theorem Sound.handlePacket_ping (sound : link.Sound window memory first) (sequence : Sequence)
    (now : Instant) :
    link.receiver.handlePacket (.ping sequence) now =
      ([], { link.receiver with lastReceivedAt := now }.postAck sequence) := by
  rw [Session.handlePacket, if_pos sound.opened]
  rfl

theorem Sound.handlePacket_repeated (sound : link.Sound window memory first)
    {sequence : Sequence} (repeated : sequence ∈ link.receiver.history.recent)
    (payload : Payload) (now : Instant) :
    link.receiver.handlePacket (.reliable sequence payload) now =
      ([], { link.receiver with lastReceivedAt := now }.postAck sequence) := by
  have known : ({ link.receiver with lastReceivedAt := now } : Session).isIdentified = true :=
    sound.known
  simp only [Session.handlePacket, sound.opened, if_true, Session.onPacket, Session.onReliable,
    known, Bool.not_true, Bool.false_eq_true, if_false, Session.postAck_eq, Session.post,
    ReceivedHistory.accept_of_mem repeated, Bool.not_false]

theorem Sound.handlePacket_new (sound : link.Sound window memory first) {sequence : Sequence}
    (new : (link.receiver.history.accept sequence).1 = true) (payload : Payload)
    (now : Instant) :
    link.receiver.handlePacket (.reliable sequence payload) now =
      ([.deliver payload true],
        { { link.receiver with lastReceivedAt := now }.postAck sequence with
          history := (link.receiver.history.accept sequence).2 }) := by
  have known : ({ link.receiver with lastReceivedAt := now } : Session).isIdentified = true :=
    sound.known
  simp only [Session.handlePacket, sound.opened, if_true, Session.onPacket, Session.onReliable,
    known, Bool.not_true, Bool.false_eq_true, if_false, Session.postAck_eq, Session.post, new,
    sound.unordered]

/-- A packet that is only acknowledged hands nothing up. -/
theorem Sound.receive_acked (sound : link.Sound window memory first) {place : Nat}
    {datagram : Bytes} {rest : List (Nat × Bytes)}
    (front : link.outbound = (place, datagram) :: rest) (sequence : Sequence) (now : Instant) :
    Link.Sound window memory first
      { link with
        receiver :=
          ({ link.receiver with lastReceivedAt := now }.postAck sequence).takeOutgoing.2
        outbound := rest
        inbound := link.inbound ++
          ({ link.receiver with lastReceivedAt := now }.postAck sequence).takeOutgoing.1
        handed := link.handed ++ [] } :=
  sound.receive none front sound.opened sound.known sound.unordered sound.deep
    (sound.acks_postAck sequence) (by intro _ none; cases none)
    ((List.append_nil link.handed).symm ▸ sound.accepted)

theorem Sound.deliver (sound : link.Sound window memory first) (now : Instant) :
    (link.deliver now).Sound window memory first := by
  unfold Link.deliver
  split
  · exact sound
  rename_i place datagram rest front
  obtain ⟨packet, found, written⟩ := sound.copies place datagram
    (front ▸ List.mem_cons_self ..)
  rcases sound.numbered packet (List.mem_of_getElem? found) with
    ⟨sequence, rfl | ⟨payload, rfl⟩⟩
  · have decoded : Packet.decode datagram = .ok (.ping sequence) := by
      rw [Session.encode_ping, Except.ok.injEq] at written
      rw [← written]
      exact Packet.decode_ping sequence
    simp only [decoded, sound.handlePacket_ping]
    exact sound.receive_acked front sequence now
  · have decoded := Packet.decode_reliable written
    by_cases repeated : sequence ∈ link.receiver.history.recent
    · simp only [decoded, sound.handlePacket_repeated repeated]
      exact sound.receive_acked front sequence now
    · obtain ⟨new, accepted⟩ := sound.accepted.accept repeated
      simp only [decoded, sound.handlePacket_new new]
      refine sound.receive (some payload) front sound.opened sound.known
        sound.unordered ?_ (sound.acks_postAck sequence) ?_ ?_
      · exact (ReceivedHistory.capacity_accept ..).trans sound.deep
      · rintro _ ⟨⟩
        exact ⟨sequence, found⟩
      · have number : sequenceAt link.issued place = sequence := by
          rw [sequenceAt, found]
          rfl
        simpa [number] using accepted

/-- An acknowledgement leaves the bytes of the pending packets alone. -/
theorem Sound.answer (sound : link.Sound window memory first) (now : Instant) :
    (link.answer now).Sound window memory first := by
  unfold Link.answer
  split
  · exact sound
  rename_i datagram rest front
  obtain ⟨sequence, written⟩ := sound.acks datagram (front ▸ List.mem_cons_self ..)
  have acks : ∀ datagram ∈ rest, ∃ sequence, (Packet.ack sequence).encode = .ok datagram :=
    fun datagram present => sound.acks datagram (front ▸ List.mem_cons_of_mem _ present)
  simp only [Packet.decode_ack written, Packet.ack, Session.handlePacket, Session.onPacket]
  split
  · have same := PendingList.map_acknowledgeIn PendingPacket.bytes (fun _ => rfl) sequence now
      link.sender.pending.packets
    have sizes := congrArg List.length same
    simp only [List.length_map] at sizes
    exact
      { sound with
        acks
        remembered := sound.remembered.congr same
        few := Nat.le_trans (Nat.le_of_eq sizes) sound.few }
  · exact { sound with acks }

/-! ## Every run -/

theorem Sound.of_step {next : Link} {move : Move} (sound : link.Sound window memory first)
    (h : link.step move = .ok next) : next.Sound window memory first := by
  cases move with
  | send payload now => exact sound.send h
  | maintain now => exact sound.maintain h
  | deliver now =>
    cases h
    exact sound.deliver now
  | lose index =>
    cases h
    have fewer := List.eraseIdx_sublist link.outbound index
    exact
      { sound with
        copies := fun place datagram present =>
          sound.copies place datagram (fewer.subset present)
        near := sound.near.sublist ((List.Sublist.refl _).append (fewer.map _)) }
  | answer now =>
    cases h
    exact sound.answer now
  | loseAnswer index =>
    cases h
    exact
      { sound with
        acks := fun datagram present =>
          sound.acks datagram ((List.eraseIdx_sublist ..).subset present) }

theorem Sound.of_run {next : Link} {moves : List Move} (sound : link.Sound window memory first)
    (h : link.run moves = .ok next) : next.Sound window memory first := by
  induction moves generalizing link with
  | nil =>
    cases h
    exact sound
  | cons move rest ih =>
    obtain ⟨middle, moved, h⟩ := Halt.bind_eq_ok.mp h
    exact ih (sound.of_step moved) h

/-! ## The start -/

theorem greeted_of_unknown {session : Session} (opened : session.state.isOpen = true)
    (unknown : session.isIdentified = false) (sequence : Sequence) (greeting : Hello)
    (now : Instant) :
    session.greeted sequence greeting now =
      { session with
        lastReceivedAt := now
        outbox := .empty
        history := (session.history.accept sequence).2
        reorder := session.reorder.restart (sequence + 1)
        identity := some (.ofHello greeting)
        state := .identified } := by
  have anonymous : session.identity = none := by simpa [Session.isIdentified] using unknown
  simp only [Session.greeted, Session.handlePacket, opened, if_true, Session.onPacket,
    Session.onHello, Session.isIdentified, Session.postAck_eq, Session.post, anonymous,
    Option.isSome_none, Bool.false_eq_true, if_false, Session.takeOutgoing]

theorem Ready.sound {settings : SessionSettings} {sender fresh : Session}
    (ready : Ready settings sender fresh) (greeting : Hello) (now : Instant) :
    (start sender fresh greeting now).Sound settings.pendingCapacity settings.receivedHistory
      sender.outgoingSequence := by
  have receiver := greeted_of_unknown ready.opened ready.unknown sender.outgoingSequence
    greeting now
  rw [start, receiver]
  constructor
  · intro _ present
    cases present
  · exact ⟨[], [], rfl, by rw [ready.pending]; rfl⟩
  · rw [ready.pending]
    rfl
  · rw [ready.pending]
    exact Nat.zero_le _
  · exact ready.emptied
  · intro _ _ present
    cases present
  · intro _ present
    cases present
  · rfl
  · rfl
  · exact ready.configured ▸ ready.unordered
  · rfl
  · rw [ready.history]
    exact ReceivedHistory.capacity_accept ..
  · intro _ _ present
    cases present
  · rw [ready.history]
    exact ReceivedHistory.records_empty_accept ..
  · exact .nil

/-- Sessions are ready when they are made and the sender was greeted. -/
theorem ready_of_create {settings : SessionSettings} {flood : FloodSettings}
    {first second : ClientId} {near far : Address} {own fresh : Session} {now : Instant}
    (made : Session.create first near settings flood now = .ok own)
    (made' : Session.create second far settings flood now = .ok fresh)
    (unordered : settings.messageOrdering = false) (greeting : Hello) :
    Ready settings (own.greeted 0 greeting now) fresh := by
  rw [Session.create_eq_ok made, Session.create_eq_ok made', greeted_of_unknown rfl rfl]
  exact ⟨rfl, rfl, rfl, rfl, rfl, rfl, unordered⟩

end Link

end SessionLayer
