import SessionLayer.Delivery.Pending
import SessionLayer.Proofs.Delivery.Spaced

/-!
# Pending packets over time

A list that is not over its capacity stays so and keeps the last packets. Acknowledging
packets and sending them again changes nothing else about them. When a packet is recorded
after each time that packets are sent again, no packet is sent again more often than there
are packets behind it (`PendingList.Aged`).
-/

namespace SessionLayer.PendingList

@[simp] theorem capacity_record (list : PendingList) (sequence : Sequence) (bytes : Bytes)
    (now : Instant) : (list.record sequence bytes now).2.capacity = list.capacity := by
  simp only [record]
  split <;> rfl

theorem length_record_le {list : PendingList} (few : list.packets.length ≤ list.capacity)
    (sequence : Sequence) (bytes : Bytes) (now : Instant) :
    (list.record sequence bytes now).2.packets.length ≤ list.capacity := by
  simp only [record]
  split
  · simpa using few
  · rename_i room
    exact Nat.le_of_not_lt room

theorem sublist_record (list : PendingList) (sequence : Sequence) (bytes : Bytes) (now : Instant) :
    (list.record sequence bytes now).2.packets.Sublist
      (list.packets ++ [.fresh sequence bytes now]) := by
  simp only [record]
  split
  · exact List.tail_sublist _
  · exact List.Sublist.refl _

theorem subset_record (list : PendingList) (sequence : Sequence) (bytes : Bytes) (now : Instant) :
    (list.record sequence bytes now).2.packets ⊆ list.packets ++ [.fresh sequence bytes now] :=
  (sublist_record list sequence bytes now).subset

/-- A list that is not over its capacity keeps the last packets. -/
theorem packets_record {list : PendingList} (few : list.packets.length ≤ list.capacity)
    (sequence : Sequence) (bytes : Bytes) (now : Instant) :
    (list.record sequence bytes now).2.packets =
      latest list.capacity (list.packets ++ [.fresh sequence bytes now]) := by
  simp only [record, latest]
  split
  · rename_i full
    have one : (list.packets ++ [PendingPacket.fresh sequence bytes now]).length -
        list.capacity = 1 := by
      rw [List.length_append, List.length_singleton] at full ⊢
      omega
    rw [one, List.drop_one]
  · rename_i room
    have none : (list.packets ++ [PendingPacket.fresh sequence bytes now]).length -
        list.capacity = 0 := by
      omega
    rw [none, List.drop_zero]

variable {β : Type} (view : PendingPacket → β)

/-- What does not depend on the mark stays when a packet is marked. -/
theorem map_acknowledgeIn (same : ∀ packet, view { packet with acked := true } = view packet)
    (sequence : Sequence) (now : Instant) (packets : List PendingPacket) :
    (acknowledgeIn sequence now packets).2.map view = packets.map view := by
  induction packets with
  | nil => rfl
  | cons packet rest ih =>
    simp only [acknowledgeIn]
    split
    · split
      · rfl
      · simp only [List.map_cons, same]
    · simp only [List.map_cons, ih]

@[simp] theorem length_acknowledge (list : PendingList) (sequence : Sequence) (now : Instant) :
    (list.acknowledge sequence now).2.packets.length = list.packets.length := by
  have sizes := congrArg List.length
    (map_acknowledgeIn PendingPacket.sequence (fun _ => rfl) sequence now list.packets)
  rwa [List.length_map, List.length_map] at sizes

/-- What does not depend on the last sending stays when packets are sent again. -/
theorem map_resendOverdue (now : Instant) (same : ∀ packet, view (packet.resent now) = view packet)
    (list : PendingList) (after : Span) :
    (list.resendOverdue now after).packets.map view = list.packets.map view := by
  simp only [resendOverdue, List.map_map]
  apply List.map_congr_left
  intro packet _
  simp only [Function.comp_apply]
  split
  · exact same packet
  · rfl

@[simp] theorem length_resendOverdue (list : PendingList) (now : Instant) (after : Span) :
    (list.resendOverdue now after).packets.length = list.packets.length :=
  List.length_map ..

/-! ## How often packets were sent again -/

/-- Each packet was sent again at most once for every packet behind it. -/
def Aged : List PendingPacket → Prop
  | [] => True
  | packet :: rest => packet.resends ≤ rest.length ∧ Aged rest

theorem Aged.resends_lt {packets : List PendingPacket} (aged : Aged packets) :
    ∀ packet ∈ packets, packet.resends < packets.length := by
  induction packets with
  | nil => exact fun packet none => absurd none List.not_mem_nil
  | cons oldest rest ih =>
    intro packet present
    rw [List.length_cons]
    rcases List.mem_cons.mp present with rfl | later
    · exact Nat.lt_succ_of_le aged.1
    · exact Nat.lt_succ_of_lt (ih aged.2 packet later)

theorem Aged.tail {packets : List PendingPacket} (aged : Aged packets) : Aged packets.tail := by
  cases packets with
  | nil => trivial
  | cons oldest rest => exact aged.2

/-- A packet more behind the others makes up for sending each of them once more. -/
theorem Aged.snoc {packets : List PendingPacket} (aged : Aged packets)
    {change : PendingPacket → PendingPacket}
    (once : ∀ packet, (change packet).resends ≤ packet.resends + 1) {last : PendingPacket}
    (fresh : last.resends = 0) : Aged (packets.map change ++ [last]) := by
  induction packets with
  | nil => exact ⟨Nat.le_of_eq fresh, trivial⟩
  | cons oldest rest ih =>
    have behind : (rest.map change ++ [last]).length = rest.length + 1 := by
      rw [List.length_append, List.length_map, List.length_singleton]
    exact ⟨behind ▸ Nat.le_trans (once oldest) (Nat.succ_le_succ aged.1), ih aged.2⟩

theorem resends_resendOverdue_le (now : Instant) (after : Span) (packet : PendingPacket) :
    (if packet.isOverdue now after then packet.resent now else packet).resends ≤
      packet.resends + 1 := by
  split
  · exact Nat.le_refl _
  · exact Nat.le_succ _

theorem Aged.record {list : PendingList} (aged : Aged list.packets) (now : Instant) (after : Span)
    (sequence : Sequence) (bytes : Bytes) :
    Aged ((list.resendOverdue now after).record sequence bytes now).2.packets := by
  have fresh : (PendingPacket.fresh sequence bytes now).resends = 0 := rfl
  have longer := aged.snoc (resends_resendOverdue_le now after) fresh
  simp only [PendingList.record]
  split
  · exact longer.tail
  · exact longer

end SessionLayer.PendingList
