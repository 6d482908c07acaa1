import SessionLayer.Proofs.Delivery.Ledger

/-!
# Packets that wait

An acknowledgement marks one packet of a ledger, at the place that `Ledger.place?` gives, and
nothing else makes a packet acknowledged (`Ledger.IsAcked`). When a packet was first sent never
changes, so these times stay in the order of the packets (`Ledger.InOrder`).

From that follows what the list of pending packets says of the ledger: it counts as many waiting
packets as it has places if the last packets fill it and none of them is acknowledged, and then
its oldest time is that of the first of them.
-/

namespace SessionLayer

/-- What a change of the last items does not show is not shown by the items, either. -/
theorem map_onLatest {α β : Type} {count : Nat} {items : List α} {f : List α → List α}
    {view : α → β} (same : (f (latest count items)).map view = (latest count items).map view) :
    (onLatest count f items).map view = items.map view := by
  rw [onLatest, List.map_append, same, ← List.map_append, latest, List.take_append_drop]

namespace Tracked

theorem map_markOldest {β : Type} {view : Tracked → β}
    (same : ∀ packet, view { packet with acked := true } = view packet) (sequence : Sequence)
    (packets : List Tracked) : (markOldest sequence packets).map view = packets.map view := by
  induction packets with
  | nil => rfl
  | cons packet rest ih =>
    rw [markOldest]
    split
    · rw [List.map_cons, List.map_cons, same]
    · rw [List.map_cons, List.map_cons, ih]

/-- The packet that is marked is the first one with the number. -/
theorem acked_markOldest_iff (sequence : Sequence) (packets : List Tracked) (place : Nat) :
    ((markOldest sequence packets).map acked)[place]? = some true ↔
      (packets.map acked)[place]? = some true ∨
        packets.findIdx? (·.sequence = sequence) = some place := by
  induction packets generalizing place with
  | nil => simp [markOldest]
  | cons packet rest ih =>
    rw [markOldest, List.findIdx?_cons]
    split
    · rename_i same
      cases place with
      | zero => simp [same]
      | succ place => simp [same]
    · rename_i other
      cases place with
      | zero => simp [other]
      | succ place => simpa [other] using ih place

end Tracked

namespace Ledger

variable {ledger : Ledger} {clock now : Instant}

/-- The packet at this place is acknowledged. -/
def IsAcked (ledger : Ledger) (place : Nat) : Prop :=
  (ledger.packets.map Tracked.acked)[place]? = some true

/-- The place of the packet that an acknowledgement of this number marks. -/
def place? (ledger : Ledger) (sequence : Sequence) : Option Nat :=
  (ledger.held.findIdx? (·.sequence = sequence)).map (ledger.packets.length - ledger.window + ·)

/-- What does not depend on the last sending stays when packets are sent again. -/
theorem map_resend {β : Type} {view : Tracked → β}
    (same : ∀ packet, view (packet.sentAgain now) = view packet) :
    (ledger.resend now).packets.map view = ledger.packets.map view := by
  refine map_onLatest ?_
  rw [List.map_map]
  refine List.map_congr_left fun packet _ => ?_
  rw [Function.comp_apply]
  split
  · exact same packet
  · rfl

/-! ## What is acknowledged -/

theorem not_isAcked_blank (window : Nat) (after : Span) (place : Nat) :
    ¬ (blank window after).IsAcked place := nofun

theorem IsAcked.lt {place : Nat} (acked : ledger.IsAcked place) :
    place < ledger.packets.length := by
  have inside := (List.getElem?_eq_some_iff.mp acked).1
  rwa [List.length_map] at inside

theorem isAcked_first_iff (ledger : Ledger) (sequence : Sequence) (datagram : Bytes)
    (now : Instant) (place : Nat) :
    (ledger.first sequence datagram now).IsAcked place ↔ ledger.IsAcked place := by
  rw [IsAcked, IsAcked, first, List.map_append, List.getElem?_append]
  split
  · exact Iff.rfl
  · rename_i behind
    rw [List.getElem?_eq_none (Nat.le_of_not_lt behind)]
    -- The packet is new, and waits.
    cases place - (ledger.packets.map Tracked.acked).length with
    | zero => simp
    | succ _ => simp

theorem isAcked_resend_iff (ledger : Ledger) (now : Instant) (place : Nat) :
    (ledger.resend now).IsAcked place ↔ ledger.IsAcked place := by
  rw [IsAcked, IsAcked, map_resend fun _ => rfl]

theorem isAcked_acknowledge_iff (ledger : Ledger) (sequence : Sequence) (place : Nat) :
    (ledger.acknowledge sequence).IsAcked place ↔
      ledger.IsAcked place ∨ ledger.place? sequence = some place := by
  have front : ((ledger.packets.take (ledger.packets.length - ledger.window)).map
      Tracked.acked).length = ledger.packets.length - ledger.window := by
    rw [List.length_map, List.length_take_of_le (Nat.sub_le ..)]
  rw [IsAcked, IsAcked, acknowledge, place?, onLatest, List.map_append]
  by_cases old : place < ledger.packets.length - ledger.window
  · -- A packet that has been pushed out of the list is left alone.
    have elsewhere : (ledger.held.findIdx? (·.sequence = sequence)).map
        (ledger.packets.length - ledger.window + ·) ≠ some place := by
      rw [Ne, Option.map_eq_some_iff]
      rintro ⟨index, -, same⟩
      omega
    rw [List.getElem?_append_left (front.symm ▸ old), List.map_take, List.getElem?_take_of_lt old]
    simp only [elsewhere, or_false]
  · obtain ⟨index, rfl⟩ := Nat.exists_eq_add_of_le (Nat.le_of_not_lt old)
    rw [List.getElem?_append_right (by rw [front]; exact Nat.le_add_right ..), front,
      Nat.add_sub_cancel_left, Tracked.acked_markOldest_iff, latest, List.map_drop,
      List.getElem?_drop, held, latest, Option.map_eq_some_iff]
    simp only [Nat.add_left_cancel_iff, exists_eq_right]

/-! ## When packets were first sent -/

theorem map_firstAt_acknowledge (ledger : Ledger) (sequence : Sequence) :
    (ledger.acknowledge sequence).packets.map Tracked.firstAt =
      ledger.packets.map Tracked.firstAt :=
  map_onLatest (Tracked.map_markOldest (fun _ => rfl) sequence _)

theorem map_firstAt_first (ledger : Ledger) (sequence : Sequence) (datagram : Bytes)
    (now : Instant) :
    (ledger.first sequence datagram now).packets.map Tracked.firstAt =
      ledger.packets.map Tracked.firstAt ++ [now] :=
  List.map_append

/-- The packets stand in the order in which they were first sent, and the clock has not gone
back since. -/
structure InOrder (ledger : Ledger) (clock : Instant) : Prop where
  sorted : (ledger.packets.map Tracked.firstAt).Pairwise (· ≤ ·)
  past : ∀ time ∈ ledger.packets.map Tracked.firstAt, time ≤ clock

theorem inOrder_blank (window : Nat) (after : Span) (clock : Instant) :
    (blank window after).InOrder clock := ⟨.nil, nofun⟩

theorem InOrder.mono (order : ledger.InOrder clock) (later : clock ≤ now) : ledger.InOrder now :=
  ⟨order.sorted, fun time among => Nat.le_trans (order.past time among) later⟩

theorem InOrder.congr {next : Ledger} (order : ledger.InOrder clock)
    (same : next.packets.map Tracked.firstAt = ledger.packets.map Tracked.firstAt) :
    next.InOrder clock :=
  ⟨same ▸ order.sorted, same ▸ order.past⟩

theorem InOrder.first (order : ledger.InOrder now) (sequence : Sequence) (datagram : Bytes) :
    (ledger.first sequence datagram now).InOrder now := by
  constructor
  · rw [map_firstAt_first]
    refine List.pairwise_append.mpr ⟨order.sorted, List.pairwise_singleton .., ?_⟩
    exact fun time among last only => List.mem_singleton.mp only ▸ order.past time among
  · rw [map_firstAt_first]
    exact List.forall_mem_append.mpr ⟨order.past, List.forall_mem_singleton.mpr (Nat.le_refl now)⟩

/-! ## What the list says -/

theorem unacked_pending (ledger : Ledger) :
    ledger.pending.unacked = (ledger.held.filter (!·.acked)).map Tracked.entry := by
  rw [PendingList.unacked, pending, List.filter_map]
  rfl

/-- As many packets wait as the list has places if it is full and all packets in it wait. -/
theorem window_le_unacked_iff (ledger : Ledger) :
    ledger.window ≤ ledger.pending.unacked.length ↔
      ledger.window ≤ ledger.packets.length ∧ ∀ packet ∈ ledger.held, packet.acked = false := by
  have waiting : (∀ packet ∈ ledger.held, packet.acked = false) ↔
      (ledger.held.filter (!·.acked)).length = ledger.held.length := by
    simp only [List.length_filter_eq_length_iff, Bool.not_eq_true']
  have fewer := List.length_filter_le (fun packet : Tracked => !packet.acked) ledger.held
  have size : ledger.held.length = min ledger.window ledger.packets.length := by
    rw [held, latest, List.length_drop]
    omega
  rw [unacked_pending, List.length_map, waiting]
  omega

/-- The packets in the list are those in the last places. -/
theorem forall_held_iff (ledger : Ledger) :
    (∀ packet ∈ ledger.held, packet.acked = false) ↔
      ∀ place, ledger.packets.length - ledger.window ≤ place → ¬ ledger.IsAcked place := by
  constructor
  · intro waiting place late acked
    obtain ⟨packet, found, marked⟩ := by
      simpa only [IsAcked, List.getElem?_map, Option.map_eq_some_iff] using acked
    obtain ⟨index, rfl⟩ := Nat.exists_eq_add_of_le late
    rw [← List.getElem?_drop] at found
    exact Bool.false_ne_true ((waiting packet (List.mem_of_getElem? found)).symm.trans marked)
  · intro none packet among
    obtain ⟨index, found⟩ := List.mem_iff_getElem?.mp among
    rw [held, latest, List.getElem?_drop] at found
    refine Bool.eq_false_iff.mpr fun marked => none _ (Nat.le_add_right _ index) ?_
    rw [IsAcked, List.getElem?_map, found, ← marked]
    rfl

/-- Where all packets in the list wait, its oldest time is that of the first of them. -/
theorem oldestUnackedAt_pending (order : ledger.InOrder clock)
    (waiting : ∀ packet ∈ ledger.held, packet.acked = false) :
    ledger.pending.oldestUnackedAt =
      (ledger.packets[ledger.packets.length - ledger.window]?).map Tracked.firstAt := by
  have all : ledger.held.filter (!·.acked) = ledger.held :=
    List.filter_eq_self.mpr fun packet among => by rw [waiting packet among]; rfl
  have times : ledger.pending.unacked.map PendingPacket.firstSentAt =
      (ledger.packets.map Tracked.firstAt).drop (ledger.packets.length - ledger.window) := by
    rw [unacked_pending, all, List.map_map, ← List.map_drop]
    rfl
  rw [PendingList.oldestUnackedAt, times,
    List.min?_eq_head? (order.sorted.drop.imp fun earlier => Nat.min_eq_left earlier),
    List.head?_drop, List.getElem?_map]

end Ledger

end SessionLayer
