import SessionLayer.Proofs.Delivery.Release
import SessionLayer.Proofs.Delivery.Trail
import SessionLayer.Proofs.Session.Cases

/-!
# A stream that arrives in order

The peer numbers its reliable payloads and its pings with one counter. A session that
keeps payloads in order expects after each payload the next number, but it does not look
at the numbers of pings. So even if every packet arrives once and in order, the payload
after a ping does not have the expected number: it is held until the gap is given up.
`Session.prompt_iff_wholeLaps` says that payloads are handed up at once exactly if no
pings come between them, or so many that the numbers have gone around the ring.
-/

namespace SessionLayer

/-! ## The reorder buffer -/

namespace ReorderBuffer

variable {α : Type} {buffer : ReorderBuffer α} {sequence : Sequence} (item : α) (now : Instant)

/-- The expected item leaves at once. -/
theorem push_next (empty : buffer.held = .empty) :
    buffer.push buffer.next item now = ([item], { buffer with next := buffer.next + 1 }) := by
  have drained : ({ buffer with next := buffer.next + 1 } : ReorderBuffer α).drain =
      ([], { buffer with next := buffer.next + 1 }) :=
    drain_of_none (by rw [empty]; rfl)
  rw [push, if_pos rfl, drained]

/-- No other item does, as long as there is room for one. -/
theorem push_of_ne (empty : buffer.held = .empty) (room : 1 ≤ buffer.capacity)
    (other : sequence ≠ buffer.next) : (buffer.push sequence item now).1 = [] := by
  have single : ((Table.empty : Table Sequence (HeldItem α)).insert sequence ⟨item, now⟩).size = 1 :=
    rfl
  rw [push, if_neg other, empty]
  split
  · rfl
  · simp only [Table.contains, Table.get?_empty, Option.isSome_none, Bool.false_eq_true, if_false,
      single, Nat.not_lt.mpr room]

end ReorderBuffer

/-! ## Streams -/

/-- These packets come from a peer whose counter stands before `next`: each payload and
each ping takes the next number, and the other packets take none. -/
def InOrder (next : Sequence) : List (Packet × Instant) → Prop
  | [] => True
  | (.reliable sequence _, _) :: rest | (.ping sequence, _) :: rest =>
    sequence = next ∧ InOrder (next + 1) rest
  | (.acknowledge _ _, _) :: rest | (.unreliable _, _) :: rest => InOrder next rest
  | (.hello _ _, _) :: _ | (.disconnect _, _) :: _ => False

/-- When so many pings have come since the last payload, payloads come only after as many
pings as lead around the ring, or after none. -/
def WholeLaps (pings : Nat) : List (Packet × Instant) → Prop
  | [] => True
  | (.reliable _ _, _) :: rest => pings % 65536 = 0 ∧ WholeLaps 0 rest
  | (.ping _, _) :: rest => WholeLaps (pings + 1) rest
  | _ :: rest => WholeLaps pings rest

/-- A packet that is neither a greeting nor a farewell. -/
def Packet.isCommon : Packet → Bool
  | .hello _ _ | .disconnect _ => false
  | _ => true

namespace Session

/-- The session after these packets. -/
def heard (session : Session) : List (Packet × Instant) → Session
  | [] => session
  | (packet, now) :: rest => (session.handlePacket packet now).2.heard rest

/-- Every reliable payload is handed up when its packet is taken. -/
def Prompt (session : Session) : List (Packet × Instant) → Prop
  | [] => True
  | (packet, now) :: rest =>
    (∀ sequence payload, packet = .reliable sequence payload →
      .deliver payload true ∈ (session.handlePacket packet now).1) ∧
    (session.handlePacket packet now).2.Prompt rest

variable {session : Session} {next sequence : Sequence} {now : Instant} {packet : Packet}

/-! ## Before the greeting -/

/-- A session that keeps payloads in order and has taken none so far. -/
structure Unmet (session : Session) : Prop where
  isOpen : session.state.isOpen = true
  unknown : session.isIdentified = false
  ordered : session.settings.messageOrdering = true
  history : session.history = .empty session.history.capacity
  short : session.history.capacity < 65536
  room : 1 ≤ session.reorder.capacity

theorem unmet_create {client : ClientId} {remote : Address} {settings : SessionSettings}
    {flood : FloodSettings} (made : create client remote settings flood now = .ok session)
    (ordered : settings.messageOrdering = true) (short : settings.receivedHistory ≤ 65535)
    (room : 1 ≤ settings.reorderCapacity) : session.Unmet := by
  rw [create_eq_ok made]
  exact ⟨rfl, rfl, ordered, rfl, Nat.lt_succ_of_le short, room⟩

theorem Unmet.handlePacket (unmet : session.Unmet) (common : packet.isCommon = true) :
    (session.handlePacket packet now).2.Unmet := by
  rw [Session.handlePacket, if_pos unmet.isOpen]
  have unknown : ({ session with lastReceivedAt := now } : Session).isIdentified = false :=
    unmet.unknown
  cases packet with
  | hello _ _ => cases common
  | disconnect _ => cases common
  | reliable sequence payload =>
    simp only [onPacket, onReliable, unknown, Bool.not_false, if_true]
    exact { unmet with }
  | acknowledge _ _ => exact { unmet with }
  | ping _ => exact { unmet with }
  | unreliable _ => exact { unmet with }

theorem Unmet.heard {stream : List (Packet × Instant)} (unmet : session.Unmet)
    (common : ∀ entry ∈ stream, entry.1.isCommon = true) : (session.heard stream).Unmet := by
  induction stream generalizing session with
  | nil => exact unmet
  | cons entry rest ih =>
    exact ih (unmet.handlePacket (common entry (List.mem_cons_self ..)))
      fun later among => common later (List.mem_cons_of_mem _ among)

/-! ## After the greeting -/

/-- The session expects this number, remembers only numbers before it, and holds
nothing. -/
structure Abreast (session : Session) (next : Sequence) : Prop where
  isOpen : session.state.isOpen = true
  known : session.isIdentified = true
  ordered : session.settings.messageOrdering = true
  trails : session.history.Trails next
  short : session.history.capacity < 65536
  expected : session.reorder.next = next
  holding : session.reorder.held = .empty
  room : 1 ≤ session.reorder.capacity

theorem Unmet.greet (unmet : session.Unmet) (greeting : Hello) :
    (session.handlePacket (.hello sequence greeting) now).2.Abreast (sequence + 1) := by
  have unknown : (({ session with lastReceivedAt := now } : Session).postAck
    sequence).isIdentified = false := unmet.unknown
  have trails : session.history.Trails sequence := by
    rw [unmet.history]
    exact ReceivedHistory.trails_empty _ sequence
  obtain ⟨-, trails, same⟩ := trails.accept unmet.short
  rw [Session.handlePacket, if_pos unmet.isOpen]
  simp only [onPacket, onHello, unknown, Bool.false_eq_true, if_false]
  exact ⟨rfl, rfl, unmet.ordered, trails, Nat.lt_of_le_of_lt (Nat.le_of_eq same) unmet.short, rfl,
    rfl, unmet.room⟩

/-- A payload that is new goes through the reorder buffer. -/
theorem onReliable_of_new (known : session.isIdentified = true)
    (ordered : session.settings.messageOrdering = true)
    (new : (session.history.accept sequence).1 = true) (payload : Payload) :
    session.onReliable sequence payload now =
      ((session.reorder.push sequence payload now).1.map (Inbound.deliver · true),
        { session.postAck sequence with
          history := (session.history.accept sequence).2
          reorder := (session.reorder.push sequence payload now).2 }) := by
  have history : (session.postAck sequence).history = session.history := rfl
  have settings : (session.postAck sequence).settings.messageOrdering = true := ordered
  simp only [onReliable, known, Bool.not_true, Bool.false_eq_true, if_false, history, new, settings,
    if_true]
  rfl

/-- One that is not is dropped. -/
theorem onReliable_of_repeated (known : session.isIdentified = true)
    (repeated : (session.history.accept sequence).1 = false) (payload : Payload) :
    (session.onReliable sequence payload now).1 = [] := by
  have history : (session.postAck sequence).history = session.history := rfl
  simp only [onReliable, known, Bool.not_true, Bool.false_eq_true, if_false, history, repeated,
    Bool.not_false, if_true]

theorem Abreast.touch (abreast : session.Abreast next) (now : Instant) :
    ({ session with lastReceivedAt := now } : Session).Abreast next :=
  { abreast with }

theorem Abreast.onReliable (abreast : session.Abreast next) (payload : Payload) :
    (session.onReliable next payload now).1 = [.deliver payload true] ∧
      (session.onReliable next payload now).2.Abreast (next + 1) := by
  obtain ⟨new, trails, same⟩ := abreast.trails.accept abreast.short
  have pushed := ReorderBuffer.push_next payload now abreast.holding
  rw [abreast.expected] at pushed
  rw [onReliable_of_new abreast.known abreast.ordered new, pushed]
  exact ⟨rfl, ⟨abreast.isOpen, abreast.known, abreast.ordered, trails,
    Nat.lt_of_le_of_lt (Nat.le_of_eq same) abreast.short, rfl, abreast.holding, abreast.room⟩⟩

theorem Abreast.onReliable_of_ne (abreast : session.Abreast next) (payload : Payload)
    (other : sequence ≠ next) : (session.onReliable sequence payload now).1 = [] := by
  cases new : (session.history.accept sequence).1 with
  | false => exact onReliable_of_repeated abreast.known new payload
  | true =>
    have kept : (session.reorder.push sequence payload now).1 = [] :=
      ReorderBuffer.push_of_ne payload now abreast.holding abreast.room
        (by rwa [abreast.expected])
    rw [onReliable_of_new abreast.known abreast.ordered new, kept]
    rfl

/-- The expected payload is handed up at once. -/
theorem Abreast.payload (abreast : session.Abreast next) (payload : Payload) :
    (session.handlePacket (.reliable next payload) now).1 = [.deliver payload true] ∧
      (session.handlePacket (.reliable next payload) now).2.Abreast (next + 1) := by
  rw [Session.handlePacket, if_pos abreast.isOpen]
  exact (abreast.touch now).onReliable payload

/-- A payload with another number is not. -/
theorem Abreast.gap (abreast : session.Abreast next) (payload : Payload)
    (other : sequence ≠ next) :
    (session.handlePacket (.reliable sequence payload) now).1 = [] := by
  rw [Session.handlePacket, if_pos abreast.isOpen]
  exact (abreast.touch now).onReliable_of_ne payload other

/-- Any other packet leaves the session as far as it was, a ping too. -/
theorem Abreast.aside (abreast : session.Abreast next) (common : packet.isCommon = true)
    (other : ∀ sequence payload, packet ≠ .reliable sequence payload) :
    (session.handlePacket packet now).2.Abreast next := by
  rw [Session.handlePacket, if_pos abreast.isOpen]
  cases packet with
  | hello _ _ => cases common
  | disconnect _ => cases common
  | reliable sequence payload => exact absurd rfl (other sequence payload)
  | acknowledge _ _ => exact { abreast with }
  | ping _ => exact { abreast with }
  | unreliable _ => exact { abreast with }

/-! ## Prompt delivery -/

theorem prompt_cons_iff {rest : List (Packet × Instant)}
    (other : ∀ sequence payload, packet ≠ .reliable sequence payload) :
    session.Prompt ((packet, now) :: rest) ↔ (session.handlePacket packet now).2.Prompt rest := by
  rw [Prompt]
  exact and_iff_right fun sequence payload same => absurd same (other sequence payload)

theorem prompt_cons_reliable_iff {payload : Payload} {rest : List (Packet × Instant)} :
    session.Prompt ((.reliable sequence payload, now) :: rest) ↔
      .deliver payload true ∈ (session.handlePacket (.reliable sequence payload) now).1 ∧
        (session.handlePacket (.reliable sequence payload) now).2.Prompt rest := by
  rw [Prompt]
  refine and_congr_left' ⟨fun all => all sequence payload rfl, ?_⟩
  rintro handed _ _ same
  cases same
  exact handed

/-- The expected number and the counter of the peer are as far apart as there were pings. -/
theorem Abreast.prompt_iff {stream : List (Packet × Instant)} {pings : Nat}
    (abreast : session.Abreast next) (inOrder : InOrder (next + UInt16.ofNat pings) stream) :
    session.Prompt stream ↔ WholeLaps pings stream := by
  induction stream generalizing session next pings with
  | nil => exact Iff.rfl
  | cons entry rest ih =>
    rcases entry with ⟨packet, now⟩
    cases packet with
    | hello _ _ => exact inOrder.elim
    | disconnect _ => exact inOrder.elim
    | acknowledge _ _ =>
      rw [prompt_cons_iff (by simp)]
      exact ih (abreast.aside rfl (by simp)) inOrder
    | unreliable _ =>
      rw [prompt_cons_iff (by simp)]
      exact ih (abreast.aside rfl (by simp)) inOrder
    | ping sequence =>
      rw [prompt_cons_iff (by simp)]
      refine ih (abreast.aside rfl (by simp)) ?_
      rw [UInt16.ofNat_add, ← UInt16.add_assoc]
      exact inOrder.2
    | reliable sequence payload =>
      obtain ⟨rfl, later⟩ := inOrder
      rw [prompt_cons_reliable_iff, WholeLaps]
      by_cases whole : pings % 65536 = 0
      · rw [Sequence.ofNat_eq_zero.mpr whole, UInt16.add_zero] at later ⊢
        obtain ⟨handed, ahead⟩ := abreast.payload payload
        have counted : InOrder (next + 1 + UInt16.ofNat 0) rest := by simpa using later
        rw [handed, ih ahead counted]
        simp [whole]
      · have other : next + UInt16.ofNat pings ≠ next := fun same =>
          whole (Sequence.ofNat_eq_zero.mp (by
            rw [← UInt16.add_right_inj next, same, UInt16.add_zero]))
        rw [abreast.gap payload other]
        simp [whole]

/-- Take a session that keeps payloads in order, after packets that say nothing of who the
client is, and a greeting. Of the packets that follow, numbered from the greeting on and
each arriving once and in order, every reliable payload is handed up at once if and only if
between payloads come no pings or whole laps of them. -/
theorem prompt_iff_wholeLaps {client : ClientId} {remote : Address}
    {settings : SessionSettings} {flood : FloodSettings}
    (made : create client remote settings flood now = .ok session)
    (ordered : settings.messageOrdering = true) (short : settings.receivedHistory ≤ 65535)
    (room : 1 ≤ settings.reorderCapacity) {early stream : List (Packet × Instant)}
    (common : ∀ entry ∈ early, entry.1.isCommon = true) (greeting : Hello) (greetedAt : Instant)
    (inOrder : InOrder (sequence + 1) stream) :
    ((session.heard early).handlePacket (.hello sequence greeting) greetedAt).2.Prompt stream ↔
      WholeLaps 0 stream := by
  have unmet := (unmet_create made ordered short room).heard common
  exact (unmet.greet greeting).prompt_iff (by simpa using inOrder)

/-- The peer greets, sends a ping, and then a payload. -/
def pingThenPayload : List (Packet × Instant) := [(.ping 2, 1000), (.reliable 3 ⟨[]⟩, 2000)]

/-- Although nothing is lost, the payload is not handed up when it comes. -/
theorem prompt_iff_wholeLaps_pingThenPayload :
    ∃ session, create ⟨1⟩ default { messageOrdering := true } {} 0 = .ok session ∧
      InOrder 2 pingThenPayload ∧
      ¬ (session.handlePacket (.hello 1 (.brief default "")) 0).2.Prompt pingThenPayload := by
  obtain ⟨session, made⟩ := Halt.exists_of_isSome
    (create ⟨1⟩ default { messageOrdering := true } {} 0) (by decide +kernel)
  have inOrder : InOrder (1 + 1) pingThenPayload := ⟨rfl, rfl, trivial⟩
  have held : ((session.heard []).handlePacket (.hello 1 (.brief default "")) 0).2.Prompt
      pingThenPayload ↔ WholeLaps 0 pingThenPayload :=
    prompt_iff_wholeLaps made rfl (by decide) (by decide) (by simp) (.brief default "") 0 inOrder
  exact ⟨session, made, inOrder, fun prompt => absurd (held.mp prompt).1 (by decide)⟩

end Session

end SessionLayer
