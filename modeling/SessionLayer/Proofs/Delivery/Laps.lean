import Mathlib.Data.List.Nodup
import SessionLayer.Proofs.Delivery.Free
import SessionLayer.Proofs.Delivery.Pending

/-!
# Laps around the ring of numbers

The counter of a session goes around the ring of packet numbers, one place after the other. At
each place it takes the number for a packet that is sent and remembered, takes it for one that
cannot be written, or passes a number that a waiting packet has. `PendingList.Laps` ties the places
to the packets that are remembered.

A packet that was acknowledged does not keep its number, but it keeps its place in the list. So
two remembered packets may have the same number, with a whole lap between them. Most of this lap
are numbers that were lost: few packets are sent while the first one is remembered, and few
numbers are passed. If not so many were lost, the remembered numbers are all different
(`PendingList.Laps.nodup`), and every acknowledgement finds the packet that waits for it
(`PendingList.acknowledge_of_nodup`).
-/

namespace SessionLayer

/-- What becomes of a number that is taken. -/
inductive Taking
  /-- A packet goes out under it and is remembered. -/
  | sent
  /-- The packet cannot be written, and the number is lost. -/
  | lost
  deriving DecidableEq

/-- Between any two packets that are among the last `capacity` that were sent, not so many numbers
were lost that the counter may have gone all the way around the ring. Of the 65535 other numbers of
a lap, at most `capacity - 2` are sent and at most `capacity - 1` are passed. -/
def Thrifty (capacity : Nat) (takings : List Taking) : Prop :=
  ∀ before between after, takings = before ++ .sent :: between ++ .sent :: after →
    between.count .sent + after.count .sent + 2 ≤ capacity →
    between.count .lost + 2 * capacity ≤ 65537

/-- So a ring that has room for twice the packets, and for the numbers that are lost, is large
enough. -/
theorem thrifty_of_count_le {capacity : Nat} {takings : List Taking}
    (few : takings.count .lost + 2 * capacity ≤ 65537) : Thrifty capacity takings := by
  rintro before between after rfl -
  simp only [List.count_append, List.count_cons] at few
  omega

/-- A place of the ring that the counter went to. -/
structure Place where
  number : Sequence
  /-- What became of the number, unless a waiting packet had it. -/
  taking : Option Taking

namespace Place

/-- The numbers of which this became, in order. -/
def numbers (taking : Option Taking) (places : List Place) : List Sequence :=
  (places.filter (·.taking = taking)).map Place.number

/-- What became of the numbers that were taken, in order. -/
def takings (places : List Place) : List Taking := places.filterMap Place.taking

variable (taking : Option Taking) (first second places : List Place)

@[simp] theorem numbers_append :
    numbers taking (first ++ second) = numbers taking first ++ numbers taking second := by
  rw [numbers, List.filter_append, List.map_append, numbers, numbers]

@[simp] theorem numbers_cons_self (number : Sequence) :
    numbers taking (⟨number, taking⟩ :: places) = number :: numbers taking places := by
  simp [numbers]

theorem mem_numbers {taking : Option Taking} {places : List Place} {number : Sequence} :
    number ∈ numbers taking places ↔ ⟨number, taking⟩ ∈ places := by
  constructor
  · intro among
    obtain ⟨⟨_, _⟩, kept, rfl⟩ := List.mem_map.mp among
    obtain ⟨present, same⟩ := List.mem_filter.mp kept
    exact of_decide_eq_true same ▸ present
  · exact fun present => List.mem_map.mpr ⟨_, List.mem_filter.mpr ⟨present, by simp⟩, rfl⟩

theorem numbers_sublist : (numbers taking places).Sublist (places.map Place.number) :=
  List.filter_sublist.map Place.number

@[simp] theorem takings_append : takings (first ++ second) = takings first ++ takings second :=
  List.filterMap_append

theorem count_takings (taking : Taking) (places : List Place) :
    (takings places).count taking = (numbers (some taking) places).length := by
  induction places with
  | nil => rfl
  | cons place rest ih =>
    simp only [takings, numbers, List.length_map] at ih ⊢
    rcases place with ⟨number, _ | other⟩
    · simpa using ih
    · by_cases same : other = taking <;> simp [same, ih]

/-- At each place the number was passed, sent or lost. -/
theorem length_eq_add (places : List Place) :
    places.length = (numbers none places).length + (numbers (some .sent) places).length +
      (numbers (some .lost) places).length := by
  induction places with
  | nil => rfl
  | cons place rest ih =>
    simp only [numbers, List.length_map] at ih ⊢
    rcases place with ⟨number, _ | _ | _⟩ <;> simp [ih] <;> omega

end Place

/-- The last numbers of a kind are the numbers of this kind behind some place. -/
theorem Place.exists_numbers_eq_latest (taking : Option Taking) (count : Nat)
    (places : List Place) :
    ∃ front back, places = front ++ back ∧
      numbers taking back = latest count (numbers taking places) := by
  obtain ⟨first, second, apart, -, same⟩ := List.map_eq_append_iff.mp
    (List.take_append_drop ((numbers taking places).length - count) (numbers taking places)).symm
  obtain ⟨front, back, rfl, -, rfl⟩ := List.filter_eq_append_iff.mp apart
  exact ⟨front, back, rfl, same⟩

/-- All numbers of the ring that follow one another are different. -/
theorem spaced_ring (start count : Nat) :
    Spaced 65535 ((List.range' start count).map UInt16.ofNat) := by
  rintro window ⟨front, back, whole⟩ short
  obtain ⟨_, _, split, front, _⟩ := List.map_eq_append_iff.mp whole.symm
  obtain ⟨_, middle, rfl, _, rfl⟩ := List.map_eq_append_iff.mp front
  obtain ⟨_, _, inner, _⟩ := List.range'_eq_append_iff.mp split
  obtain ⟨skipped, _, _, rfl⟩ := List.range'_eq_append_iff.mp inner.symm
  rw [List.length_map, List.length_range'] at short
  refine List.Nodup.map_on ?_ List.nodup_range'
  intro first before second after same
  rw [List.mem_range'_1] at before after
  have residues := congrArg UInt16.toNat same
  rw [UInt16.toNat_ofNat', UInt16.toNat_ofNat'] at residues
  omega

namespace PendingList

/-- The counter went to these places from its start, and the list remembers the last packets
that were sent, up to its capacity. A number was passed only while such a packet had it. -/
structure Laps (list : PendingList) (capacity : Nat) (last : Sequence) (places : List Place) :
    Prop where
  sized : list.capacity = capacity
  ring : places.map Place.number = (List.range' 1 places.length).map UInt16.ofNat
  last : last = UInt16.ofNat places.length
  packets : list.packets.map PendingPacket.sequence =
    latest capacity (Place.numbers (some .sent) places)
  passed : ∀ front number back, places = front ++ ⟨number, none⟩ :: back →
    number ∈ latest capacity (Place.numbers (some .sent) front)

variable {list next : PendingList} {capacity : Nat} {last : Sequence} {places : List Place}

theorem laps_empty (capacity : Nat) : (empty capacity).Laps capacity 0 [] where
  sized := rfl
  ring := rfl
  last := rfl
  packets := (latest_nil capacity).symm
  passed front number back split := by simp at split

/-- What leaves the numbers of the packets alone. -/
theorem Laps.congr (laps : list.Laps capacity last places) (sized : next.capacity = list.capacity)
    (same : next.packets.map PendingPacket.sequence = list.packets.map PendingPacket.sequence) :
    next.Laps capacity last places :=
  { laps with
    sized := sized.trans laps.sized
    packets := same.trans laps.packets }

theorem Laps.length_packets_le (laps : list.Laps capacity last places) :
    list.packets.length ≤ list.capacity := by
  have few := length_latest_le capacity (Place.numbers (some .sent) places)
  rwa [← laps.packets, List.length_map, ← laps.sized] at few

/-! ## One place further -/

theorem Laps.snoc (laps : list.Laps capacity last places) (taking : Option Taking)
    (sized : next.capacity = list.capacity)
    (packets : next.packets.map PendingPacket.sequence =
      latest capacity (Place.numbers (some .sent) (places ++ [⟨last + 1, taking⟩])))
    (passed : taking = none → last + 1 ∈ list.packets.map PendingPacket.sequence) :
    next.Laps capacity (last + 1) (places ++ [⟨last + 1, taking⟩]) where
  sized := sized.trans laps.sized
  ring := by
    rw [List.length_append, List.length_singleton, List.range'_concat, List.map_append,
      List.map_append, laps.ring, laps.last, Nat.one_mul, Nat.add_comm 1, List.map_singleton,
      List.map_singleton, UInt16.ofNat_add]
    rfl
  last := by
    rw [List.length_append, List.length_singleton, UInt16.ofNat_add, laps.last]
    rfl
  packets := packets
  passed front number back split := by
    rcases List.eq_nil_or_concat back with rfl | ⟨back, final, rfl⟩
    · obtain ⟨rfl, here⟩ := List.append_inj' split rfl
      cases here
      rw [← laps.packets]
      exact passed rfl
    · rw [List.concat_eq_append, ← List.cons_append, ← List.append_assoc] at split
      exact laps.passed front number back (List.append_inj' split rfl).1

theorem Laps.pass (laps : list.Laps capacity last places)
    (taken : list.isOutstanding (last + 1) = true) :
    list.Laps capacity (last + 1) (places ++ [⟨last + 1, none⟩]) := by
  refine laps.snoc none rfl ?_ fun _ => ?_
  · have unsent : Place.numbers (some .sent) [⟨last + 1, none⟩] = [] := rfl
    rw [Place.numbers_append, unsent, List.append_nil, laps.packets]
  · exact (List.filter_sublist.map _).subset (isOutstanding_iff.mp taken)

theorem Laps.lose (laps : list.Laps capacity last places) :
    list.Laps capacity (last + 1) (places ++ [⟨last + 1, some .lost⟩]) := by
  refine laps.snoc (some .lost) rfl ?_ nofun
  have unsent : Place.numbers (some .sent) [⟨last + 1, some .lost⟩] = [] := rfl
  rw [Place.numbers_append, unsent, List.append_nil, laps.packets]

theorem Laps.send (laps : list.Laps capacity last places) (bytes : Bytes) (now : Instant) :
    (list.record (last + 1) bytes now).2.Laps capacity (last + 1)
      (places ++ [⟨last + 1, some .sent⟩]) := by
  refine laps.snoc (some .sent) (capacity_record ..) ?_ nofun
  rw [packets_record laps.length_packets_le, map_latest, List.map_append, laps.packets, laps.sized,
    Place.numbers_append, Place.numbers_cons_self]
  exact latest_latest_append ..

/-- The search for a free number passes places where no number is taken. -/
theorem Laps.of_nextFree {tries : Nat} {free : Sequence} (laps : list.Laps capacity last places)
    (found : list.nextFree tries last = some free) :
    ∃ before skipped, free = before + 1 ∧ Place.takings skipped = [] ∧
      list.Laps capacity before (places ++ skipped) := by
  induction tries generalizing last places with
  | zero => cases found
  | succ tries ih =>
    rw [nextFree] at found
    split at found
    · rename_i taken
      obtain ⟨before, skipped, reached, none, further⟩ := ih (laps.pass taken) found
      refine ⟨before, ⟨last + 1, .none⟩ :: skipped, reached, ?_, ?_⟩
      · simpa [Place.takings] using none
      · rwa [List.append_assoc] at further
    · cases found
      exact ⟨last, [], rfl, rfl, by rwa [List.append_nil]⟩

theorem Laps.of_freeAfter {free : Sequence} (laps : list.Laps capacity last places)
    (found : list.freeAfter last = .ok free) :
    ∃ before skipped, free = before + 1 ∧ Place.takings skipped = [] ∧
      list.Laps capacity before (places ++ skipped) := by
  rw [freeAfter] at found
  split at found
  · rename_i number searched
    cases found
    exact laps.of_nextFree searched
  · cases found

/-- A packet is sent under the next free number. -/
theorem Laps.track {free : Sequence} (laps : list.Laps capacity last places)
    (found : list.freeAfter last = .ok free) (bytes : Bytes) (now : Instant) :
    ∃ more, Place.takings more = [.sent] ∧
      (list.record free bytes now).2.Laps capacity free (places ++ more) := by
  obtain ⟨before, skipped, rfl, none, further⟩ := laps.of_freeAfter found
  refine ⟨skipped ++ [⟨before + 1, some .sent⟩], by rw [Place.takings_append, none]; rfl, ?_⟩
  rw [← List.append_assoc]
  exact further.send bytes now

/-- The next free number is lost. -/
theorem Laps.spoil {free : Sequence} (laps : list.Laps capacity last places)
    (found : list.freeAfter last = .ok free) :
    ∃ more, Place.takings more = [.lost] ∧ list.Laps capacity free (places ++ more) := by
  obtain ⟨before, skipped, rfl, none, further⟩ := laps.of_freeAfter found
  refine ⟨skipped ++ [⟨before + 1, some .lost⟩], by rw [Place.takings_append, none]; rfl, ?_⟩
  rw [← List.append_assoc]
  exact further.lose

/-! ## A lap between two packets -/

/-- A number that was passed on a stretch without repeats was remembered before the stretch. -/
theorem Laps.mem_latest_of_passed {front lap back : List Place}
    (laps : list.Laps capacity last (front ++ lap ++ back))
    (distinct : (lap.map Place.number).Nodup) :
    Place.numbers none lap ⊆ latest capacity (Place.numbers (some .sent) front) := by
  intro number passed
  obtain ⟨left, right, rfl⟩ := List.append_of_mem (Place.mem_numbers.mp passed)
  have remembered := laps.passed (front ++ left) number (right ++ back) (by simp)
  rw [Place.numbers_append] at remembered
  refine (mem_latest_append remembered).resolve_right fun sent => ?_
  have earlier := (Place.numbers_sublist _ left).subset sent
  rw [List.map_append, List.map_cons, List.nodup_append] at distinct
  exact distinct.2.2 _ earlier _ (List.mem_cons_self ..) rfl

/-- Between two packets with the same number that are both remembered lies a lap with few packets
that were sent and few numbers that were passed. All others were lost. -/
theorem Laps.lost_between {number : Sequence} {before between after : List Place}
    (laps : list.Laps capacity last
      (before ++ ⟨number, some .sent⟩ :: between ++ ⟨number, some .sent⟩ :: after))
    (remembered : (Place.numbers (some .sent) between).length + 2 ≤ capacity) :
    65537 < (Place.numbers (some .lost) between).length + 2 * capacity := by
  have spaced := laps.ring ▸ spaced_ring 1 _
  simp only [List.map_append, List.map_cons] at spaced
  -- On a shorter way no number comes twice.
  have long : 65535 ≤ between.length := by
    refine Nat.le_of_not_lt fun short => ?_
    have window := spaced (number :: between.map Place.number ++ [number])
      ⟨before.map Place.number, after.map Place.number, by simp⟩ (by simp; omega)
    simp at window
  -- The lap before the second packet has all other numbers once.
  obtain ⟨early, lap, rfl, whole⟩ :
      ∃ early lap, between = early ++ lap ∧ lap.length = 65535 :=
    ⟨_, _, (List.take_append_drop (between.length - 65535) between).symm, by
      rw [List.length_drop]; omega⟩
  have distinct : (lap.map Place.number ++ [number]).Nodup :=
    spaced _ ⟨before.map Place.number ++ number :: early.map Place.number, after.map Place.number,
      by simp⟩ (by simp [whole])
  obtain ⟨others, -, apart⟩ := List.nodup_append.mp distinct
  rw [Place.numbers_append, List.length_append] at remembered
  have among : number :: Place.numbers none lap ⊆ latest capacity
      (Place.numbers (some .sent) (before ++ ⟨number, some .sent⟩ :: early)) := by
    refine List.cons_subset.mpr ⟨?_, ?_⟩
    · rw [Place.numbers_append, Place.numbers_cons_self]
      refine mem_latest_of_suffix (List.suffix_append ..) ?_ (List.mem_cons_self ..)
      rw [List.length_cons]
      omega
    · have whole : list.Laps capacity last ((before ++ ⟨number, some .sent⟩ :: early) ++ lap ++
          ⟨number, some .sent⟩ :: after) := by
        simpa using laps
      exact whole.mem_latest_of_passed others
  have once : (number :: Place.numbers none lap).Nodup := by
    refine List.nodup_cons.mpr ⟨fun passed => ?_, (Place.numbers_sublist _ _).nodup others⟩
    exact apart _ ((Place.numbers_sublist _ _).subset passed) _ (List.mem_singleton_self _) rfl
  have few := Nat.le_trans (once.length_le_of_subset among) (length_latest_le _ _)
  have all := Place.length_eq_add lap
  rw [List.length_cons] at few
  rw [List.length_append] at long
  rw [Place.numbers_append, List.length_append]
  omega

/-- As long as not so many numbers are lost, the remembered numbers are all different. -/
theorem Laps.nodup (laps : list.Laps capacity last places)
    (thrifty : Thrifty capacity (Place.takings places)) :
    (list.packets.map PendingPacket.sequence).Nodup := by
  rw [laps.packets]
  obtain ⟨front, back, whole, same⟩ :=
    Place.exists_numbers_eq_latest (some .sent) capacity places
  have few := length_latest_le capacity (Place.numbers (some .sent) places)
  rw [← same] at few ⊢
  clear same
  -- Going back, each packet is compared to those that were sent after it.
  induction back generalizing front with
  | nil => exact .nil
  | cons place rest ih =>
    have step : places = (front ++ [place]) ++ rest := by simp [whole]
    obtain ⟨number, taking⟩ := place
    by_cases sent : taking = some .sent
    · subst sent
      rw [Place.numbers_cons_self] at few ⊢
      rw [List.length_cons] at few
      refine List.nodup_cons.mpr ⟨fun again => ?_, ih _ step (Nat.le_of_succ_le few)⟩
      obtain ⟨between, after, rfl⟩ := List.append_of_mem (Place.mem_numbers.mp again)
      have all : places =
          front ++ ⟨number, some .sent⟩ :: between ++ ⟨number, some .sent⟩ :: after := by
        simp [whole]
      subst all
      simp only [Place.numbers_append, Place.numbers_cons_self, List.length_append,
        List.length_cons] at few
      have many := laps.lost_between (by omega)
      have bound := thrifty (Place.takings front) (Place.takings between) (Place.takings after)
        (by simp [Place.takings])
      simp only [Place.count_takings] at bound
      omega
    · have other : Place.numbers (some .sent) (⟨number, taking⟩ :: rest) =
          Place.numbers (some .sent) rest := by simp [Place.numbers, sent]
      rw [other] at few ⊢
      exact ih _ step few

/-! ## Acknowledgements -/

variable {sequence : Sequence}

theorem acknowledgeIn_of_nodup {packets : List PendingPacket}
    (distinct : (packets.map PendingPacket.sequence).Nodup)
    (waits : ∃ packet ∈ packets, packet.sequence = sequence ∧ packet.acked = false)
    (now : Instant) :
    ((acknowledgeIn sequence now packets).2.filter (!·.acked)).length + 1 =
        (packets.filter (!·.acked)).length ∧
      ∀ packet ∈ (acknowledgeIn sequence now packets).2,
        packet.sequence = sequence → packet.acked = true := by
  induction packets with
  | nil => simp at waits
  | cons first rest ih =>
    obtain ⟨apart, distinct⟩ := List.nodup_cons.mp distinct
    by_cases here : first.sequence = sequence
    · have none : ∀ packet ∈ rest, packet.sequence ≠ sequence := fun packet present same =>
        apart (List.mem_map.mpr ⟨packet, present, same.trans here.symm⟩)
      have waiting : first.acked = false := by
        obtain ⟨packet, present, same, unacked⟩ := waits
        rcases List.mem_cons.mp present with rfl | later
        · exact unacked
        · exact absurd same (none packet later)
      simp only [acknowledgeIn, here, waiting, if_true, Bool.false_eq_true, if_false]
      refine ⟨by simp [waiting], fun packet present same => ?_⟩
      rcases List.mem_cons.mp present with rfl | later
      · rfl
      · exact absurd same (none packet later)
    · have later : ∃ packet ∈ rest, packet.sequence = sequence ∧ packet.acked = false := by
        obtain ⟨packet, present, same, unacked⟩ := waits
        rcases List.mem_cons.mp present with rfl | later
        · exact absurd same here
        · exact ⟨packet, later, same, unacked⟩
      obtain ⟨fewer, done⟩ := ih distinct later
      simp only [acknowledgeIn, here, if_false]
      refine ⟨?_, fun packet present same => ?_⟩
      · rw [List.filter_cons, List.filter_cons]
        split
        · rw [List.length_cons, List.length_cons, fewer]
        · exact fewer
      · rcases List.mem_cons.mp present with rfl | among
        · exact absurd same here
        · exact done packet among same

/-- If the remembered numbers are all different, an acknowledgement finds the packet that waits
for it. -/
theorem acknowledge_of_nodup (distinct : (list.packets.map PendingPacket.sequence).Nodup)
    (waits : list.isOutstanding sequence = true) (now : Instant) :
    (list.acknowledge sequence now).2.unacked.length + 1 = list.unacked.length ∧
      (list.acknowledge sequence now).2.isOutstanding sequence = false := by
  obtain ⟨packet, present, waiting⟩ := List.any_eq_true.mp waits
  obtain ⟨fewer, done⟩ :=
    acknowledgeIn_of_nodup distinct ⟨packet, present, by simpa using waiting⟩ now
  refine ⟨fewer, List.any_eq_false.mpr fun packet present waiting => ?_⟩
  obtain ⟨same, waiting⟩ : packet.sequence = sequence ∧ packet.acked = false := by
    simpa using waiting
  rw [done packet present same] at waiting
  cases waiting

end PendingList

end SessionLayer
