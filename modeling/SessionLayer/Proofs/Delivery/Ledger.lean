import Mathlib.Data.List.Forall2
import SessionLayer.Proofs.Delivery.Pending

/-!
# A ledger of tracked packets

The list of pending packets forgets: of each packet it keeps the first and the last time at
which it was sent, and of all packets only the last ones. A `Ledger` keeps all of them, with
every time at which they were sent, and says by itself which are due. `Ledger.pending` is the
list that belongs to it, and each thing that is done to the list has its like for the ledger.

What was written into a ledger stays there (`Ledger.Becomes`): a packet keeps its datagram,
and the times at which it was sent are only added to, and no more once it is acknowledged or
has been pushed out of the list.
-/

namespace SessionLayer

/-! ## The last items -/

section Latest

variable {α : Type} {count : Nat} {items : List α} {f : List α → List α}

/-- Changes the last items and leaves the others as they are. -/
def onLatest (count : Nat) (f : List α → List α) (items : List α) : List α :=
  items.take (items.length - count) ++ f (latest count items)

theorem latest_onLatest (same : (f (latest count items)).length = (latest count items).length) :
    latest count (onLatest count f items) = f (latest count items) := by
  have sizes : (f (latest count items)).length = items.length - (items.length - count) := by
    rw [same, latest, List.length_drop]
  have front : (items.take (items.length - count)).length = items.length - count :=
    List.length_take_of_le (Nat.sub_le ..)
  have total : (onLatest count f items).length = items.length := by
    rw [onLatest, List.length_append, front, sizes]
    omega
  rw [latest, total, onLatest, List.drop_append_of_le_length (Nat.le_of_eq front.symm)]
  rw [List.drop_eq_nil_of_le (Nat.le_of_eq front), List.nil_append]

theorem length_onLatest (same : (f (latest count items)).length = (latest count items).length) :
    (onLatest count f items).length = items.length := by
  rw [onLatest, List.length_append, same, List.length_take_of_le (Nat.sub_le ..), latest,
    List.length_drop]
  omega

/-- An item before the last ones is left alone. -/
theorem getElem?_onLatest_of_lt {place : Nat} (before : place + count < items.length) :
    (onLatest count f items)[place]? = items[place]? := by
  have inside : place < (items.take (items.length - count)).length := by
    rw [List.length_take_of_le (Nat.sub_le ..)]
    omega
  rw [onLatest, List.getElem?_append_left inside, List.getElem?_take_of_lt (by omega)]

/-- A relation that holds between the last items and what they become holds of all. -/
theorem forall₂_onLatest {related : α → α → Prop} (refl : ∀ item, related item item)
    (each : List.Forall₂ related (latest count items) (f (latest count items))) :
    List.Forall₂ related items (onLatest count f items) := by
  have front := List.forall₂_same.mpr fun item (_ : item ∈ items.take (items.length - count)) =>
    refl item
  have whole : List.Forall₂ related (items.take (items.length - count) ++ latest count items)
      (onLatest count f items) := List.rel_append front each
  rwa [latest, List.take_append_drop] at whole

end Latest

/-! ## Tracked packets -/

/-- A packet that a session wants acknowledged, with every time at which it was sent. -/
structure Tracked where
  sequence : Sequence
  datagram : Bytes
  firstAt : Instant
  /-- When it was sent again, the last time first. -/
  again : List Instant
  acked : Bool
  deriving DecidableEq

namespace Tracked

/-- When the packet was sent, the last time first. -/
def sentAt (packet : Tracked) : List Instant := packet.again ++ [packet.firstAt]

/-- When the packet was sent most recently. -/
def lastAt (packet : Tracked) : Instant := packet.again.headD packet.firstAt

/-- The packet is waiting, and was sent most recently at least `after` before `now`. -/
def isDue (now : Instant) (after : Span) (packet : Tracked) : Bool :=
  !packet.acked && packet.lastAt + after ≤ now

/-- The packet after it was sent once more. -/
def sentAgain (now : Instant) (packet : Tracked) : Tracked :=
  { packet with again := now :: packet.again }

/-- What a list of pending packets keeps of the packet. -/
def entry (packet : Tracked) : PendingPacket where
  sequence := packet.sequence
  bytes := packet.datagram
  firstSentAt := packet.firstAt
  lastSentAt := packet.lastAt
  acked := packet.acked
  resends := packet.again.length

/-- Marks the oldest packet with this number. -/
def markOldest (sequence : Sequence) : List Tracked → List Tracked
  | [] => []
  | packet :: rest =>
    if packet.sequence = sequence then { packet with acked := true } :: rest
    else packet :: markOldest sequence rest

theorem sentAt_eq (packet : Tracked) : packet.sentAt = packet.lastAt :: packet.sentAt.tail := by
  rcases packet with ⟨_, _, _, _ | _, _⟩ <;> rfl

theorem length_markOldest (sequence : Sequence) (packets : List Tracked) :
    (markOldest sequence packets).length = packets.length := by
  induction packets with
  | nil => rfl
  | cons packet rest ih =>
    rw [markOldest]
    split
    · rfl
    · rw [List.length_cons, ih, List.length_cons]

/-- Marking a packet twice is marking it once, so that a ledger need not tell the two
apart. -/
theorem acknowledgeIn_map_entry (sequence : Sequence) (now : Instant) (packets : List Tracked) :
    (PendingList.acknowledgeIn sequence now (packets.map entry)).2 =
      (markOldest sequence packets).map entry := by
  induction packets with
  | nil => rfl
  | cons packet rest ih =>
    simp only [List.map_cons, PendingList.acknowledgeIn, markOldest, entry] at ih ⊢
    split
    · split
      · rename_i acked
        simp only [List.map_cons, entry, acked]
        rfl
      · rfl
    · simp only [ih, List.map_cons, entry]

theorem isOverdue_entry {packet : Tracked} {now : Instant} {after : Span}
    (past : packet.lastAt ≤ now) :
    packet.entry.isOverdue now after = packet.isDue now after := by
  have same : after ≤ now - packet.lastAt ↔ packet.lastAt + after ≤ now :=
    ⟨fun waited => Nat.add_comm packet.lastAt after ▸ Nat.add_le_of_le_sub past waited,
      fun waited => Nat.le_sub_of_add_le (Nat.add_comm packet.lastAt after ▸ waited)⟩
  simp only [PendingPacket.isOverdue, isDue, entry, same]

/-- One packet, later. -/
structure Continues (packet later : Tracked) : Prop where
  sequence : later.sequence = packet.sequence
  datagram : later.datagram = packet.datagram
  firstAt : later.firstAt = packet.firstAt
  /-- The times at which it was sent are only added to, and not once it is acknowledged. -/
  again : ∃ more, later.again = more ++ packet.again ∧ (packet.acked = true → more = [])
  acked : packet.acked = true → later.acked = true

theorem Continues.refl (packet : Tracked) : packet.Continues packet :=
  ⟨rfl, rfl, rfl, ⟨[], rfl, fun _ => rfl⟩, id⟩

theorem Continues.trans {packet middle later : Tracked} (first : packet.Continues middle)
    (second : middle.Continues later) : packet.Continues later where
  sequence := second.sequence.trans first.sequence
  datagram := second.datagram.trans first.datagram
  firstAt := second.firstAt.trans first.firstAt
  again := by
    obtain ⟨early, first, noneEarly⟩ := first.again
    obtain ⟨late, second, noneLate⟩ := second.again
    refine ⟨late ++ early, by rw [second, first, List.append_assoc], fun acked => ?_⟩
    rw [noneEarly acked, noneLate (‹packet.Continues middle›.acked acked)]
    rfl
  acked := second.acked ∘ first.acked

theorem continues_markOldest (sequence : Sequence) (packets : List Tracked) :
    List.Forall₂ Continues packets (markOldest sequence packets) := by
  induction packets with
  | nil => exact .nil
  | cons packet rest ih =>
    rw [markOldest]
    split
    · exact .cons ⟨rfl, rfl, rfl, ⟨[], rfl, fun _ => rfl⟩, fun _ => rfl⟩
        (List.forall₂_same.mpr fun other _ => .refl other)
    · exact .cons (.refl packet) ih

end Tracked

/-! ## Ledgers -/

/-- All packets that a session wanted acknowledged, oldest first. The last `window` of them
are pending, and those of them that wait are due `after` they were sent most recently. -/
structure Ledger where
  window : Nat
  after : Span
  packets : List Tracked
  deriving DecidableEq

namespace Ledger

/-- A ledger before the first packet. -/
def blank (window : Nat) (after : Span) : Ledger := ⟨window, after, []⟩

/-- The packets that are pending, oldest first. -/
def held (ledger : Ledger) : List Tracked := latest ledger.window ledger.packets

/-- The packets that are due, oldest first. -/
def due (ledger : Ledger) (now : Instant) : List Tracked :=
  ledger.held.filter (Tracked.isDue now ledger.after)

/-- A packet is sent for the first time. -/
def first (ledger : Ledger) (sequence : Sequence) (datagram : Bytes) (now : Instant) : Ledger :=
  { ledger with packets := ledger.packets ++ [⟨sequence, datagram, now, [], false⟩] }

/-- The oldest of the pending packets with this number is acknowledged. -/
def acknowledge (ledger : Ledger) (sequence : Sequence) : Ledger :=
  { ledger with
    packets := onLatest ledger.window (Tracked.markOldest sequence) ledger.packets }

/-- The packets that are due are sent again. -/
def resend (ledger : Ledger) (now : Instant) : Ledger :=
  { ledger with
    packets := onLatest ledger.window
      (List.map fun packet =>
        if packet.isDue now ledger.after then packet.sentAgain now else packet)
      ledger.packets }

/-- The list of pending packets that belongs to the ledger. -/
def pending (ledger : Ledger) : PendingList := ⟨ledger.window, ledger.held.map Tracked.entry⟩

/-- No packet was sent at a later time. -/
def Timely (ledger : Ledger) (clock : Instant) : Prop :=
  ∀ packet ∈ ledger.packets, packet.lastAt ≤ clock

variable {ledger : Ledger} {sequence : Sequence} {datagram : Bytes} {now clock : Instant}

/-! ## The ledger and the list -/

theorem pending_first (ledger : Ledger) (sequence : Sequence) (datagram : Bytes)
    (now : Instant) :
    (ledger.first sequence datagram now).pending =
      (ledger.pending.record sequence datagram now).2 := by
  have few : ledger.pending.packets.length ≤ ledger.pending.capacity := by
    simp only [pending, held, List.length_map]
    exact length_latest_le ..
  have fresh : PendingPacket.fresh sequence datagram now =
      Tracked.entry ⟨sequence, datagram, now, [], false⟩ := rfl
  have capacity := PendingList.capacity_record ledger.pending sequence datagram now
  have packets := PendingList.packets_record few sequence datagram now
  have last : (ledger.first sequence datagram now).held.map Tracked.entry =
      latest ledger.window
        (ledger.held.map Tracked.entry ++ [PendingPacket.fresh sequence datagram now]) := by
    rw [fresh, ← List.map_singleton, ← List.map_append, ← map_latest, held, held,
      latest_latest_append]
    rfl
  rw [pending, last]
  exact congrArg₂ PendingList.mk capacity.symm packets.symm

theorem pending_acknowledge (ledger : Ledger) (sequence : Sequence) (now : Instant) :
    (ledger.acknowledge sequence).pending = (ledger.pending.acknowledge sequence now).2 := by
  have marked : (ledger.acknowledge sequence).held =
      Tracked.markOldest sequence ledger.held :=
    latest_onLatest (Tracked.length_markOldest ..)
  simp only [pending, marked, PendingList.acknowledge, Tracked.acknowledgeIn_map_entry]
  rfl

theorem Timely.held (timely : ledger.Timely clock) :
    ∀ packet ∈ ledger.held, packet.lastAt ≤ clock :=
  fun packet among => timely packet (List.mem_of_mem_drop among)

/-- What the list finds overdue is what is due. -/
theorem overdue_pending (timely : ledger.Timely now) :
    ledger.pending.overdue now ledger.after = (ledger.due now).map Tracked.entry := by
  rw [PendingList.overdue, due, pending, List.filter_map]
  exact congrArg (List.map Tracked.entry) (List.filter_congr fun packet among =>
    Tracked.isOverdue_entry (timely.held packet among))

theorem pending_resend (timely : ledger.Timely now) :
    (ledger.resend now).pending = ledger.pending.resendOverdue now ledger.after := by
  have sent : (ledger.resend now).held = ledger.held.map fun packet =>
      if packet.isDue now ledger.after then packet.sentAgain now else packet :=
    latest_onLatest (List.length_map ..)
  simp only [pending, sent, PendingList.resendOverdue, List.map_map]
  refine congrArg₂ PendingList.mk rfl (List.map_congr_left fun packet among => ?_)
  have overdue : packet.entry.isOverdue now ledger.after = packet.isDue now ledger.after :=
    Tracked.isOverdue_entry (timely.held packet among)
  simp only [Function.comp_apply, overdue]
  split <;> rfl

/-! ## What stays in a ledger -/

/-- A ledger, later. -/
structure Becomes (ledger later : Ledger) : Prop where
  window : later.window = ledger.window
  after : later.after = ledger.after
  longer : ledger.packets.length ≤ later.packets.length
  /-- Each packet keeps its place. -/
  continues : ∀ (place : Nat) (packet : Tracked), ledger.packets[place]? = some packet →
    ∃ next, later.packets[place]? = some next ∧ packet.Continues next
  /-- Nothing happens to a packet that has been pushed out of the list. -/
  evicted : ∀ place : Nat, place + ledger.window < ledger.packets.length →
    later.packets[place]? = ledger.packets[place]?

theorem Becomes.refl (ledger : Ledger) : ledger.Becomes ledger :=
  ⟨rfl, rfl, Nat.le_refl _, fun _ packet found => ⟨packet, found, .refl packet⟩, fun _ _ => rfl⟩

theorem Becomes.trans {middle later : Ledger} (early : ledger.Becomes middle)
    (late : middle.Becomes later) : ledger.Becomes later where
  window := late.window.trans early.window
  after := late.after.trans early.after
  longer := Nat.le_trans early.longer late.longer
  continues place packet found := by
    obtain ⟨between, found, continues⟩ := early.continues place packet found
    obtain ⟨next, found, further⟩ := late.continues place between found
    exact ⟨next, found, continues.trans further⟩
  evicted place out := by
    have outStill : place + middle.window < middle.packets.length := by
      rw [early.window]
      exact Nat.lt_of_lt_of_le out early.longer
    rw [late.evicted place outStill, early.evicted place out]

theorem becomes_first (ledger : Ledger) (sequence : Sequence) (datagram : Bytes)
    (now : Instant) : ledger.Becomes (ledger.first sequence datagram now) := by
  have same {place : Nat} (inside : place < ledger.packets.length) :
      (ledger.first sequence datagram now).packets[place]? = ledger.packets[place]? :=
    List.getElem?_append_left inside
  refine ⟨rfl, rfl, by simp [first], fun place packet found => ⟨packet, ?_, .refl packet⟩,
    fun place out => same (by omega)⟩
  rw [same (List.getElem?_eq_some_iff.mp found).1, found]

/-- A change of the pending packets that lets each of them continue. -/
theorem becomes_onLatest {change : List Tracked → List Tracked}
    (each : ∀ packets, List.Forall₂ Tracked.Continues packets (change packets)) :
    ledger.Becomes
      { ledger with packets := onLatest ledger.window change ledger.packets } where
  window := rfl
  after := rfl
  longer := Nat.le_of_eq (length_onLatest (each _).length_eq.symm).symm
  continues place packet found := by
    have all := forall₂_onLatest Tracked.Continues.refl (each (latest ledger.window ledger.packets))
    obtain ⟨inside, rfl⟩ := List.getElem?_eq_some_iff.mp found
    exact ⟨_, List.getElem?_eq_getElem (all.length_eq ▸ inside), all.get inside _⟩
  evicted _ out := getElem?_onLatest_of_lt out

theorem becomes_acknowledge (ledger : Ledger) (sequence : Sequence) :
    ledger.Becomes (ledger.acknowledge sequence) :=
  becomes_onLatest (Tracked.continues_markOldest sequence)

theorem becomes_resend (ledger : Ledger) (now : Instant) : ledger.Becomes (ledger.resend now) := by
  refine becomes_onLatest fun packets => List.forall₂_map_right_iff.mpr
    (List.forall₂_same.mpr fun packet _ => ?_)
  split
  · rename_i due
    have waiting : packet.acked = false := by
      simp only [Tracked.isDue, Bool.and_eq_true, Bool.not_eq_true'] at due
      exact due.1
    exact ⟨rfl, rfl, rfl, ⟨[now], rfl, by simp [waiting]⟩, id⟩
  · exact .refl packet

/-! ## What holds of every packet -/

section Every

variable {property : Tracked → Prop}

/-- What holds of every packet still does after a change of the pending packets that keeps
it. -/
theorem forall_onLatest {change : List Tracked → List Tracked}
    (keeps : ∀ packets : List Tracked, (∀ packet ∈ packets, property packet) →
      ∀ packet ∈ change packets, property packet)
    (each : ∀ packet ∈ ledger.packets, property packet) :
    ∀ packet ∈ onLatest ledger.window change ledger.packets, property packet := by
  intro packet among
  rcases List.mem_append.mp among with old | changed
  · exact each packet (List.mem_of_mem_take old)
  · exact keeps _ (fun other present => each other (List.mem_of_mem_drop present)) packet changed

theorem forall_first (fresh : property ⟨sequence, datagram, now, [], false⟩)
    (each : ∀ packet ∈ ledger.packets, property packet) :
    ∀ packet ∈ (ledger.first sequence datagram now).packets, property packet := by
  intro packet among
  rcases List.mem_append.mp among with old | new
  · exact each packet old
  · exact List.mem_singleton.mp new ▸ fresh

theorem forall_acknowledge
    (marked : ∀ packet, property packet → property { packet with acked := true })
    (each : ∀ packet ∈ ledger.packets, property packet) :
    ∀ packet ∈ (ledger.acknowledge sequence).packets, property packet := by
  refine forall_onLatest (fun packets every => ?_) each
  induction packets with
  | nil => exact every
  | cons oldest rest ih =>
    obtain ⟨here, behind⟩ := List.forall_mem_cons.mp every
    rw [Tracked.markOldest]
    split
    · exact List.forall_mem_cons.mpr ⟨marked oldest here, behind⟩
    · exact List.forall_mem_cons.mpr ⟨here, ih behind⟩

theorem forall_resend
    (sent : ∀ packet, packet.isDue now ledger.after = true → property packet →
      property (packet.sentAgain now))
    (each : ∀ packet ∈ ledger.packets, property packet) :
    ∀ packet ∈ (ledger.resend now).packets, property packet := by
  refine forall_onLatest (fun packets every packet among => ?_) each
  obtain ⟨before, present, rfl⟩ := List.mem_map.mp among
  split
  · rename_i due
    exact sent before due (every before present)
  · exact every before present

end Every

/-! ## The times in a ledger -/

theorem Timely.mono (timely : ledger.Timely clock) (later : clock ≤ now) : ledger.Timely now :=
  fun packet among => Nat.le_trans (timely packet among) later

theorem Timely.first (timely : ledger.Timely now) :
    (ledger.first sequence datagram now).Timely now :=
  forall_first (Nat.le_refl now) timely

theorem Timely.acknowledge (timely : ledger.Timely clock) :
    (ledger.acknowledge sequence).Timely clock :=
  forall_acknowledge (fun _ past => past) timely

theorem Timely.resend (timely : ledger.Timely now) : (ledger.resend now).Timely now :=
  forall_resend (fun _ _ _ => Nat.le_refl now) timely

/-- Between any two times at which a packet was sent lies at least `after`. -/
def Spaced (ledger : Ledger) : Prop :=
  ∀ packet ∈ ledger.packets,
    packet.sentAt.Pairwise fun later earlier => earlier + ledger.after ≤ later

theorem Spaced.first (spaced : ledger.Spaced) : (ledger.first sequence datagram now).Spaced :=
  forall_first (List.pairwise_singleton _ _) spaced

theorem Spaced.acknowledge (spaced : ledger.Spaced) : (ledger.acknowledge sequence).Spaced :=
  forall_acknowledge (fun _ apart => apart) spaced

/-- A packet that is due was sent long enough before, most recently and so every time. -/
theorem Spaced.resend (spaced : ledger.Spaced) : (ledger.resend now).Spaced := by
  refine forall_resend (fun packet due apart => .cons (fun earlier among => ?_) apart) spaced
  have waited : packet.lastAt + ledger.after ≤ now := by
    simp only [Tracked.isDue, Bool.and_eq_true, decide_eq_true_eq] at due
    exact due.2
  -- The last time comes first, and the others lie before it.
  have times := packet.sentAt_eq
  change earlier ∈ packet.sentAt at among
  rw [times] at among apart
  rcases List.mem_cons.mp among with rfl | before
  · exact waited
  · exact Nat.le_trans (List.rel_of_pairwise_cons apart before)
      (Nat.le_trans (Nat.le_add_right ..) waited)

end Ledger

end SessionLayer
