import SessionLayer.Proofs.Delivery.Pending
import SessionLayer.Proofs.Session.Cases

/-!
# When a silent peer is given up

A session notices that its peer is silent by its list of pending packets: it has to be
full of packets that wait, and the first of them has to wait for long. Every new packet
takes the place of the oldest one, so what counts is how many packets went out lately.

`Session.Watched` ties the list to the contacts, the times at which packets should have
gone out, from which the list takes all that came after the last sign of life.
`Session.Watched.isUnresponsive_iff` reads the verdict off the contacts alone.
-/

namespace SessionLayer.Session

/-- A session with the usual settings whose clock runs from `start` to `clock`. It gave
numbers at the times `tracked`, and since it heard from its peer these are the
`contacts`. -/
structure Watched (start clock : Instant) (contacts tracked : List Instant)
    (session : Session) : Prop where
  usual : session.settings = {}
  capacity : session.pending.capacity = 8
  staged : session.state = if session.isIdentified then .identified else .unidentified
  begun : start ≤ session.lastReceivedAt
  heard : session.lastReceivedAt ≤ clock
  sorted : tracked.Pairwise (· ≤ ·)
  past : ∀ time ∈ tracked, time ≤ clock
  pending : session.pending.packets.map PendingPacket.firstSentAt = latest 8 tracked
  acked : ∀ packet ∈ session.pending.packets,
    packet.acked = true → packet.firstSentAt ≤ session.lastReceivedAt
  unknown : session.isIdentified = false → tracked = []
  known : session.isIdentified = true → ∀ since, session.lastReceivedAt < since →
    tracked.countP (since ≤ ·) = contacts.countP (since ≤ ·)

variable {start clock : Instant} {contacts tracked : List Instant} {session : Session}

theorem isOpen_of_staged
    (staged : session.state = if session.isIdentified then .identified else .unidentified) :
    session.state.isOpen = true := by
  rw [staged]
  split <;> rfl

theorem Watched.later (watched : session.Watched start clock contacts tracked) {now : Instant}
    (after : clock ≤ now) : session.Watched start now contacts tracked :=
  { watched with
    heard := Nat.le_trans watched.heard after
    past := fun time present => Nat.le_trans (watched.past time present) after }

theorem watched_create {client : ClientId} {remote : Address} {flood : FloodSettings}
    (h : Session.create client remote {} flood clock = .ok session) (begun : start ≤ clock) :
    session.Watched start clock contacts [] := by
  rw [create_eq_ok h]
  constructor
  · rfl
  · rfl
  · rfl
  · exact begun
  · exact Nat.le_refl _
  · exact .nil
  · intro _ present
    cases present
  · rfl
  · intro _ present
    cases present
  · intro _
    rfl
  · intro known
    cases known

/-! ## What the peer sends -/

theorem Watched.firstSentAt_le (watched : session.Watched start clock contacts tracked)
    {packets : List PendingPacket}
    (same : packets.map PendingPacket.firstSentAt =
      session.pending.packets.map PendingPacket.firstSentAt) :
    ∀ packet ∈ packets, packet.firstSentAt ≤ clock := by
  intro packet present
  have time : packet.firstSentAt ∈ latest 8 tracked := by
    rw [← watched.pending, ← same]
    exact List.mem_map_of_mem present
  exact watched.past _ (List.mem_of_mem_drop time)

/-- A sign of life starts the count anew. -/
theorem Watched.heardFrom (watched : session.Watched start clock contacts tracked)
    {next : Session} (past : ∀ time ∈ contacts, time ≤ clock) (usual : next.settings = {})
    (capacity : next.pending.capacity = 8)
    (staged : next.state = if next.isIdentified then .identified else .unidentified)
    (heard : next.lastReceivedAt = clock)
    (pending : next.pending.packets.map PendingPacket.firstSentAt =
      session.pending.packets.map PendingPacket.firstSentAt)
    (stays : session.isIdentified = true → next.isIdentified = true) :
    next.Watched start clock contacts tracked where
  usual := usual
  capacity := capacity
  staged := staged
  begun := heard ▸ Nat.le_trans watched.begun watched.heard
  heard := Nat.le_of_eq heard
  sorted := watched.sorted
  past := watched.past
  pending := pending.trans watched.pending
  acked packet present _ := heard ▸ watched.firstSentAt_le pending packet present
  unknown anonymous := watched.unknown (by
    cases known : session.isIdentified with
    | false => rfl
    | true => exact absurd (stays known) (by simp [anonymous]))
  known _ since after := by
    have none {times : List Instant} (past : ∀ time ∈ times, time ≤ clock) :
        times.countP (since ≤ ·) = 0 := by
      rw [List.countP_eq_zero]
      intro time present
      have before := past time present
      rw [heard] at after
      simp only [decide_eq_true_eq]
      exact Nat.not_le_of_lt (Nat.lt_of_le_of_lt before after)
    rw [none watched.past, none past]

theorem Watched.received (watched : session.Watched start clock contacts tracked)
    (past : ∀ time ∈ contacts, time ≤ clock) {packet : Packet}
    (stays : ∀ farewell, packet ≠ .disconnect farewell) :
    (session.handlePacket packet clock).2.Watched start clock contacts tracked := by
  have opened := isOpen_of_staged watched.staged
  have usual := watched.usual
  have capacity := watched.capacity
  have staged := watched.staged
  rw [handlePacket, if_pos opened]
  cases packet with
  | hello sequence greeting =>
    simp only [onPacket, onHello]
    split
    · exact watched.heardFrom past usual capacity staged rfl rfl id
    · exact watched.heardFrom past usual capacity rfl rfl rfl (fun _ => rfl)
  | acknowledge sequence missing =>
    exact watched.heardFrom past usual capacity staged rfl
      (PendingList.map_acknowledgeIn PendingPacket.firstSentAt (fun _ => rfl) ..) id
  | ping sequence =>
    simp only [onPacket]
    exact watched.heardFrom past usual capacity staged rfl rfl id
  | reliable sequence payload =>
    simp only [onPacket, onReliable]
    split
    · exact watched.heardFrom past usual capacity staged rfl rfl id
    split
    · exact watched.heardFrom past usual capacity staged rfl rfl id
    split
    · exact watched.heardFrom past usual capacity staged rfl rfl id
    · exact watched.heardFrom past usual capacity staged rfl rfl id
  | unreliable payload => exact watched.heardFrom past usual capacity staged rfl rfl id
  | disconnect farewell => exact absurd rfl (stays farewell)

/-- Datagrams that were fetched, limits and rooms do not matter. -/
theorem Watched.congr (watched : session.Watched start clock contacts tracked) {next : Session}
    (usual : next.settings = session.settings) (pending : next.pending = session.pending)
    (state : next.state = session.state) (identity : next.identity = session.identity)
    (heard : next.lastReceivedAt = session.lastReceivedAt) :
    next.Watched start clock contacts tracked := by
  have known := isIdentified_of_identity_eq identity
  constructor
  · exact usual.trans watched.usual
  · exact pending ▸ watched.capacity
  · rw [state, known]
    exact watched.staged
  · exact heard ▸ watched.begun
  · exact heard ▸ watched.heard
  · exact watched.sorted
  · exact watched.past
  · exact pending ▸ watched.pending
  · rw [pending, heard]
    exact watched.acked
  · exact known ▸ watched.unknown
  · rw [known, heard]
    exact watched.known

/-! ## What is sent to the peer -/

theorem Watched.length_le (watched : session.Watched start clock contacts tracked) :
    session.pending.packets.length ≤ 8 := by
  have sizes := congrArg List.length watched.pending
  rw [List.length_map] at sizes
  exact sizes ▸ length_latest_le 8 tracked

/-- A packet with a number goes out, for the application or for a sweep. -/
theorem Watched.track (watched : session.Watched start clock contacts tracked)
    (known : session.isIdentified = true) {next : Session} (pending : PendingList)
    {sequence : Sequence} {bytes : Bytes} (capacity : pending.capacity = 8)
    (times : pending.packets.map PendingPacket.firstSentAt =
      session.pending.packets.map PendingPacket.firstSentAt)
    (acked : ∀ packet ∈ pending.packets,
      packet.acked = true → packet.firstSentAt ≤ session.lastReceivedAt)
    (recorded : next.pending = (pending.record sequence bytes clock).2)
    (usual : next.settings = session.settings) (state : next.state = session.state)
    (identity : next.identity = session.identity)
    (heard : next.lastReceivedAt = session.lastReceivedAt) :
    next.Watched start clock (contacts ++ [clock]) (tracked ++ [clock]) := by
  have few : pending.packets.length ≤ pending.capacity := by
    have sizes := congrArg List.length times
    rw [List.length_map, List.length_map] at sizes
    exact capacity ▸ sizes ▸ watched.length_le
  have stays := (isIdentified_of_identity_eq identity).trans known
  have packets := PendingList.packets_record few sequence bytes clock
  rw [← recorded, capacity] at packets
  constructor
  · exact usual.trans watched.usual
  · rw [recorded, PendingList.capacity_record, capacity]
  · rw [state, isIdentified_of_identity_eq identity]
    exact watched.staged
  · exact heard ▸ watched.begun
  · exact heard ▸ watched.heard
  · rw [List.pairwise_append]
    refine ⟨watched.sorted, List.pairwise_singleton .., fun time present last new => ?_⟩
    rw [List.mem_singleton.mp new]
    exact watched.past time present
  · intro time present
    rcases List.mem_append.mp present with old | new
    · exact watched.past time old
    · exact Nat.le_of_eq (List.mem_singleton.mp new)
  · rw [packets, map_latest, List.map_append, times, watched.pending]
    exact latest_latest_append ..
  · rw [packets, heard]
    intro packet present marked
    rcases List.mem_append.mp (List.mem_of_mem_drop present) with old | new
    · exact acked packet old marked
    · rw [List.mem_singleton.mp new] at marked
      cases marked
  · intro anonymous
    rw [stays] at anonymous
    cases anonymous
  · intro _ since after
    rw [List.countP_append, List.countP_append, watched.known known since (heard ▸ after)]

theorem Watched.sent (watched : session.Watched start clock contacts tracked)
    {payload : Payload} {sequence : Sequence} {next : Session}
    (sending : session.Sending payload clock true (.ok (some sequence)) next) :
    next.takeOutgoing.2.Watched start clock (contacts ++ [clock]) (tracked ++ [clock]) := by
  cases sending with
  | tracked identified _ _ =>
    have known : session.isIdentified = true := by
      have staged := watched.staged
      cases known : session.isIdentified with
      | true => rfl
      | false => simp [identified, known] at staged
    exact watched.track known _ watched.capacity rfl watched.acked rfl rfl rfl rfl rfl

/-- A payload that gets no number changes nothing. -/
theorem Watched.notSent (watched : session.Watched start clock contacts tracked)
    {payload : Payload} {reliable : Bool} {answer : Except SessionFault (Option Sequence)}
    {next : Session} (sending : session.Sending payload clock reliable answer next)
    (unnumbered : ∀ sequence, answer ≠ .ok (some sequence)) :
    next.Watched start clock contacts tracked := by
  cases sending with
  | refused _ => exact watched
  | posted _ _ => exact watched.congr rfl rfl rfl rfl rfl
  | unwritable _ _ => exact watched
  | @tracked sequence _ _ _ _ => exact absurd rfl (unnumbered sequence)
  | spoiled _ _ _ => exact watched.congr rfl rfl rfl rfl rfl

/-- Every session of a known client that is kept is sent a ping. -/
theorem Watched.kept (watched : session.Watched start clock contacts tracked) {upkeep : Upkeep}
    {next : Session} (looking : session.Looking clock upkeep next)
    (alive : upkeep.health = .alive) :
    ∃ tracked, next.takeOutgoing.2.Watched start clock (contacts ++ [clock]) tracked := by
  cases looking with
  | shut closed =>
    rw [isOpen_of_staged watched.staged] at closed
    cases closed
  | waiting _ unknown _ =>
    have stays : session.takeOutgoing.2.isIdentified = false := unknown
    exact ⟨tracked, { watched with known := fun known => by simp [stays] at known }⟩
  | idle _ _ _ => cases alive
  | unresponsive _ _ _ => cases alive
  | @keptUp sequence _ known _ _ _ =>
    rw [expireGaps_frame]
    refine ⟨tracked ++ [clock], ?_⟩
    refine watched.track known (session.resendOverdue clock).2.pending watched.capacity ?_ ?_
      rfl rfl rfl rfl rfl
    · exact PendingList.map_resendOverdue _ clock (fun _ => rfl) ..
    · intro packet present marked
      obtain ⟨old, among, rfl⟩ := List.mem_map.mp present
      split at marked
      · rw [if_pos ‹_›]
        exact watched.acked old among marked
      · rw [if_neg ‹_›]
        exact watched.acked old among marked

/-! ## The verdict -/

/-- The peer is given up where its list has no room left for a packet that went out
lately: fewer than eight contacts came within the last eight seconds. -/
theorem Watched.isUnresponsive_iff (watched : session.Watched start clock contacts tracked)
    (known : session.isIdentified = true) {since : Instant}
    (silent : session.lastReceivedAt < since)
    (enough : 8 ≤ contacts.countP (since ≤ ·)) (long : since + Span.ofSeconds 8 ≤ clock) :
    session.isUnresponsive clock = true ↔
      contacts.countP (clock - Span.ofSeconds 8 ≤ ·) < 8 := by
  have reached (least : Instant) (after : session.lastReceivedAt < least) :
      (latest 8 tracked).countP (least ≤ ·) = min 8 (contacts.countP (least ≤ ·)) := by
    rw [countP_latest watched.sorted, watched.known known least after]
  have short := length_latest_le 8 tracked
  have lately := (reached since silent).trans (Nat.min_eq_left enough)
  have full : (latest 8 tracked).length = 8 :=
    Nat.le_antisymm short (Nat.le_trans (Nat.le_of_eq lately.symm) List.countP_le_length)
  have late : ∀ time ∈ latest 8 tracked, since ≤ time := by
    intro time present
    simpa using List.countP_eq_length.mp (lately.trans full.symm) time present
  have waits : session.pending.unacked = session.pending.packets := by
    rw [PendingList.unacked, List.filter_eq_self]
    intro packet present
    have after := late packet.firstSentAt
      (watched.pending ▸ List.mem_map_of_mem present)
    cases marked : packet.acked with
    | false => rfl
    | true =>
      have before := watched.acked packet present marked
      exact absurd after (Nat.not_le_of_lt (Nat.lt_of_le_of_lt before silent))
  have many : session.unackedCount = 8 := by
    rw [unackedCount, waits, ← full, ← watched.pending, List.length_map]
  have oldest : session.pending.oldestUnackedAt = (latest 8 tracked).min? := by
    rw [PendingList.oldestUnackedAt, waits, watched.pending]
  have ceiling : session.settings.unresponsiveAfter = Span.ofSeconds 8 := by
    rw [watched.usual]
    rfl
  have recent := reached (clock - Span.ofSeconds 8)
    (Nat.lt_of_lt_of_le silent (Nat.le_sub_of_add_le long))
  rw [isUnresponsive, watched.capacity, many, oldest, ceiling]
  cases first : (latest 8 tracked).min? with
  | none =>
    rw [List.min?_eq_none_iff] at first
    simp [first] at full
  | some least =>
    obtain ⟨among, lowest⟩ := List.min?_eq_some_iff.mp first
    have waited : Span.ofSeconds 8 < clock - least ↔ least < clock - Span.ofSeconds 8 := by
      rw [Nat.lt_sub_iff_add_lt, Nat.lt_sub_iff_add_lt, Nat.add_comm]
    simp only [Nat.le_refl, decide_true, Bool.true_and, Option.any_some, decide_eq_true_eq, waited]
    constructor
    · intro early
      refine Nat.lt_of_not_le fun enough => ?_
      have whole := (recent.trans (Nat.min_eq_left enough)).trans full.symm
      have after := List.countP_eq_length.mp whole least among
      exact Nat.not_le_of_lt early (of_decide_eq_true after)
    · intro few
      refine Nat.lt_of_not_le fun after => ?_
      have whole : (latest 8 tracked).countP (clock - Span.ofSeconds 8 ≤ ·) = _ :=
        List.countP_eq_length.mpr fun time present =>
          decide_eq_true (Nat.le_trans after (lowest time present))
      rw [recent, full, Nat.min_eq_right (Nat.le_of_lt few)] at whole
      exact Nat.ne_of_lt few whole

end SessionLayer.Session
