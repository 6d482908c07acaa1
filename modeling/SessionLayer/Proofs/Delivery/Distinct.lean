import SessionLayer.Proofs.Delivery.Free
import SessionLayer.Proofs.Delivery.Pending

/-!
# Numbers that differ

A list of pending packets is `PendingList.Sound` if it is not over its capacity and no two of
its waiting packets have one number, and a history is `ReceivedHistory.Sound` if it is not over
its capacity and remembers no number twice. All that is done to either keeps it so, as long as a
packet is recorded under a free number.
-/

namespace SessionLayer

namespace PendingList

variable {capacity : Nat} {list : PendingList} {sequence : Sequence} {now : Instant}

/-! ## Waiting packets -/

theorem filter_acknowledgeIn_sublist (sequence : Sequence) (now : Instant)
    (packets : List PendingPacket) :
    ((acknowledgeIn sequence now packets).2.filter (!·.acked)).Sublist
      (packets.filter (!·.acked)) := by
  induction packets with
  | nil => exact .refl _
  | cons packet rest ih =>
    rw [acknowledgeIn]
    split
    · split
      · exact .refl _
      · -- the packet does not wait any more
        rw [List.filter_cons_of_neg Bool.false_ne_true]
        exact (List.sublist_cons_self packet rest).filter _
    · simp only [List.filter_cons]
      split
      · exact ih.cons_cons packet
      · exact ih

theorem unacked_acknowledge_sublist (list : PendingList) (sequence : Sequence) (now : Instant) :
    (list.acknowledge sequence now).2.unacked.Sublist list.unacked :=
  filter_acknowledgeIn_sublist sequence now list.packets

/-- At most the new packet comes to the waiting ones. -/
theorem unacked_record_sublist (list : PendingList) (sequence : Sequence) (bytes : Bytes)
    (now : Instant) :
    (list.record sequence bytes now).2.unacked.Sublist
      (list.unacked ++ [.fresh sequence bytes now]) := by
  have fewer := (sublist_record list sequence bytes now).filter (!·.acked)
  rwa [List.filter_append] at fewer

/-- Packets that are sent again wait as before. -/
theorem map_sequence_unacked_resendOverdue (list : PendingList) (now : Instant) (after : Span) :
    (list.resendOverdue now after).unacked.map PendingPacket.sequence =
      list.unacked.map PendingPacket.sequence := by
  have waiting (packets : List PendingPacket) :
      (packets.filter (!·.acked)).map PendingPacket.sequence =
        ((packets.map fun packet => (packet.sequence, packet.acked)).filter (!·.2)).map
          Prod.fst := by
    rw [List.filter_map, List.map_map]
    rfl
  rw [unacked, unacked, waiting, waiting, map_resendOverdue _ now (fun _ => rfl)]

/-! ## Lists -/

/-- The list is not over its capacity, and no two waiting packets have one number. -/
structure Sound (capacity : Nat) (list : PendingList) : Prop where
  sized : list.capacity = capacity
  few : list.packets.length ≤ capacity
  distinct : (list.unacked.map PendingPacket.sequence).Nodup

theorem sound_empty (capacity : Nat) : (empty capacity).Sound capacity :=
  ⟨rfl, Nat.zero_le capacity, .nil⟩

theorem Sound.acknowledge (sound : list.Sound capacity) (sequence : Sequence) (now : Instant) :
    (list.acknowledge sequence now).2.Sound capacity where
  sized := sound.sized
  few := by
    rw [length_acknowledge]
    exact sound.few
  distinct := sound.distinct.sublist ((unacked_acknowledge_sublist list sequence now).map _)

theorem Sound.record (sound : list.Sound capacity) (free : list.isOutstanding sequence = false)
    (bytes : Bytes) (now : Instant) : (list.record sequence bytes now).2.Sound capacity where
  sized := (capacity_record list sequence bytes now).trans sound.sized
  few := sound.sized ▸ length_record_le (sound.sized.symm ▸ sound.few) sequence bytes now
  distinct := by
    have new : sequence ∉ list.unacked.map PendingPacket.sequence := by
      rw [← isOutstanding_iff, free]
      exact Bool.false_ne_true
    refine List.Nodup.sublist ((unacked_record_sublist list sequence bytes now).map _) ?_
    rw [List.map_append, List.map_singleton, ← List.concat_eq_append]
    exact sound.distinct.concat new

theorem Sound.resendOverdue (sound : list.Sound capacity) (now : Instant) (after : Span) :
    (list.resendOverdue now after).Sound capacity where
  sized := sound.sized
  few := by
    rw [length_resendOverdue]
    exact sound.few
  distinct := by
    rw [map_sequence_unacked_resendOverdue]
    exact sound.distinct

end PendingList

/-! ## Histories -/

namespace ReceivedHistory

variable {capacity : Nat} {history : ReceivedHistory}

/-- The history is not over its capacity, and remembers no number twice. -/
structure Sound (capacity : Nat) (history : ReceivedHistory) : Prop where
  sized : history.capacity = capacity
  few : history.recent.length ≤ capacity
  distinct : history.recent.Nodup

theorem sound_empty (capacity : Nat) : (empty capacity).Sound capacity :=
  ⟨rfl, Nat.zero_le capacity, .nil⟩

theorem Sound.accept (sound : history.Sound capacity) (sequence : Sequence) :
    (history.accept sequence).2.Sound capacity := by
  by_cases known : sequence ∈ history.recent
  · rw [accept_of_mem known]
    exact sound
  · rw [accept_of_notMem known]
    exact
      { sized := sound.sized
        few := sound.sized ▸ length_latest_le _ _
        distinct := by
          have longer := sound.distinct.concat known
          rw [List.concat_eq_append] at longer
          exact longer.sublist (List.drop_sublist ..) }

end ReceivedHistory

end SessionLayer
