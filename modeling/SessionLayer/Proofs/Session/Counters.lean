import SessionLayer.Proofs.Delivery.Free
import SessionLayer.Proofs.Delivery.Pending
import SessionLayer.Proofs.Flood.Limiter
import SessionLayer.Proofs.Session.Cases

/-!
# What a session can no longer count

A session counts the datagrams in its windows, how often each packet was sent again, and
how often any packet was. It also asks for memory when it is made, and for a number with
every ping. Each of these can be too much, and nothing else keeps an operation from
returning:

* `Session.create_eq_error_iff` for making a session,
* `Session.checkRate_eq_error_iff` for deciding about a datagram,
* `Session.maintain_eq_error_iff` for looking after a session.

Only the regular look after a session makes its packets be sent again. All else that is
done to it makes the list of pending packets `PendingList.Follows` what it was.
-/

namespace SessionLayer

/-! ## Windows -/

/-- The window runs, and one datagram more is too much to be counted. -/
def CountingWindow.IsFull (window : CountingWindow) (now : Instant) : Prop :=
  window.hasLapsed now = false ∧ window.count + 1 = UInt32.size

namespace CountingWindow

variable {window : CountingWindow} {now : Instant}

theorem count_hit_le (window : CountingWindow) (now : Instant) :
    (window.hit now).2.count ≤ window.count + 1 := by
  cases lapsed : window.hasLapsed now with
  | true =>
    rw [hit_of_lapsed lapsed]
    exact Nat.le_add_left ..
  | false => simp only [hit_of_running lapsed, Nat.le_refl]

/-- A window that is not full has room for the next datagram. -/
theorem count_hit_lt_iff (fits : window.count < UInt32.size) :
    (window.hit now).2.count < UInt32.size ↔ ¬ window.IsFull now := by
  cases lapsed : window.hasLapsed now with
  | true =>
    rw [hit_of_lapsed lapsed]
    simp only [IsFull, lapsed, Bool.true_eq_false, false_and, not_false_eq_true, iff_true]
    decide
  | false =>
    rw [hit_of_running lapsed]
    simp only [IsFull, lapsed, true_and]
    omega

theorem not_isFull_fresh (limit : WindowLimit) (now : Instant) : ¬ (fresh limit).IsFull now :=
  fun full => by cases full.1

end CountingWindow

/-- There is memory for the lists of a session. -/
def SessionSettings.FitMemory (settings : SessionSettings) : Prop :=
  (settings.pendingCapacity + 1) * PendingList.itemSize < Memory.bound ∧
    (settings.receivedHistory + 1) * ReceivedHistory.itemSize < Memory.bound

/-! ## Pending packets -/

namespace PendingList

variable {list next : PendingList}

/-- What becomes of the list while none of its packets is sent again. -/
inductive Follows (list : PendingList) : PendingList → Prop
  | same : Follows list list
  | acknowledged (sequence : Sequence) (now : Instant) :
    Follows list (list.acknowledge sequence now).2
  | recorded (sequence : Sequence) (bytes : Bytes) (now : Instant) :
    Follows list (list.record sequence bytes now).2

theorem Follows.capacity_eq (follows : list.Follows next) : next.capacity = list.capacity := by
  cases follows with
  | same => rfl
  | acknowledged _ _ => rfl
  | recorded _ _ _ => exact capacity_record ..

theorem Follows.length_le (follows : list.Follows next)
    (few : list.packets.length ≤ list.capacity) : next.packets.length ≤ next.capacity := by
  rw [follows.capacity_eq]
  cases follows with
  | same => exact few
  | acknowledged sequence now => rwa [length_acknowledge]
  | recorded _ _ _ => exact length_record_le few ..

/-- No packet counts more than one of the packets counted before. -/
theorem Follows.resends_lt {bound : Nat} (follows : list.Follows next) (some : 0 < bound)
    (each : ∀ packet ∈ list.packets, packet.resends < bound) :
    ∀ packet ∈ next.packets, packet.resends < bound := by
  intro packet present
  cases follows with
  | same => exact each packet present
  | acknowledged sequence now =>
    have among : packet.resends ∈ (acknowledgeIn sequence now list.packets).2.map
        PendingPacket.resends := List.mem_map_of_mem present
    rw [map_acknowledgeIn PendingPacket.resends (fun _ => rfl)] at among
    obtain ⟨before, stored, same⟩ := List.mem_map.mp among
    exact same ▸ each before stored
  | recorded sequence bytes now =>
    rcases List.mem_append.mp (subset_record list sequence bytes now present) with old | new
    · exact each packet old
    · rw [List.mem_singleton.mp new]
      exact some

theorem Aged.congr {first second : List PendingPacket} (aged : Aged first)
    (same : second.map PendingPacket.resends = first.map PendingPacket.resends) : Aged second := by
  induction first generalizing second with
  | nil =>
    rw [List.map_eq_nil_iff.mp same]
    trivial
  | cons oldest rest ih =>
    obtain ⟨packet, others, rfl, resends, same⟩ := List.map_eq_cons_iff.mp same
    have sizes := congrArg List.length same
    rw [List.length_map, List.length_map] at sizes
    exact ⟨resends ▸ sizes ▸ aged.1, ih aged.2 same⟩

theorem Follows.aged (follows : list.Follows next) (aged : Aged list.packets) :
    Aged next.packets := by
  cases follows with
  | same => exact aged
  | acknowledged sequence now =>
    exact aged.congr (map_acknowledgeIn PendingPacket.resends (fun _ => rfl) ..)
  | recorded sequence bytes now =>
    have longer : Aged (list.packets.map id ++ [.fresh sequence bytes now]) :=
      aged.snoc (fun packet => Nat.le_succ packet.resends) rfl
    rw [List.map_id] at longer
    simp only [record]
    split
    · exact longer.tail
    · exact longer

/-- Sending packets again frees no number and takes none. -/
theorem isOutstanding_resendOverdue (list : PendingList) (now : Instant) (after : Span)
    (sequence : Sequence) :
    (list.resendOverdue now after).isOutstanding sequence = list.isOutstanding sequence := by
  simp only [isOutstanding, resendOverdue, List.any_map]
  congr 1
  funext packet
  simp only [Function.comp_apply]
  split <;> rfl

end PendingList

namespace Session

variable {session next : Session} {now : Instant} {halt : Halt}

/-! ## What leaves the counters alone -/

/-- Whatever the peer sends, no packet is sent again for it. -/
theorem follows_handlePacket (session : Session) (packet : Packet) (now : Instant) :
    session.pending.Follows (session.handlePacket packet now).2.pending ∧
      (session.handlePacket packet now).2.totalResends = session.totalResends := by
  refine ⟨?_, by rw [handlePacket_frame]⟩
  rcases session.pending_handlePacket packet now with same | ⟨sequence, acknowledged⟩
  · rw [same]
    exact .same
  · rw [acknowledged]
    exact .acknowledged sequence now

theorem Sending.follows {payload : Payload} {reliable : Bool}
    {answer : Except SessionFault (Option Sequence)}
    (h : session.Sending payload now reliable answer next) :
    session.pending.Follows next.pending ∧ next.totalResends = session.totalResends := by
  cases h with
  | tracked _ _ _ => exact ⟨.recorded _ _ now, rfl⟩
  | _ => exact ⟨.same, rfl⟩

/-! ## Making a session -/

/-- A session is made exactly where there is memory for its lists. -/
theorem create_eq_error_iff {client : ClientId} {remote : Address} {settings : SessionSettings}
    {flood : FloodSettings} :
    create client remote settings flood now = .error halt ↔
      halt = .capacityOverflow ∧ ¬ settings.FitMemory := by
  unfold create PendingList.create ReceivedHistory.create Memory.reserve SessionSettings.FitMemory
  by_cases packets : (settings.pendingCapacity + 1) * PendingList.itemSize < Memory.bound <;>
    by_cases numbers : (settings.receivedHistory + 1) * ReceivedHistory.itemSize < Memory.bound <;>
    simp [packets, numbers, bind, Except.bind, pure, Except.pure, eq_comm]

/-- There is memory for lists that have no more places than there are packet numbers. -/
theorem fitMemory_of_le {settings : SessionSettings} (small : settings.pendingCapacity ≤ 65535)
    (short : settings.receivedHistory ≤ 65535) : settings.FitMemory := by
  refine Classical.byContradiction fun crowded => ?_
  obtain ⟨session, made⟩ := exists_create ⟨1⟩ (.v4 default 1) {} 0 short small
  rw [create_eq_error_iff.mpr ⟨rfl, crowded⟩] at made
  cases made

/-! ## Deciding about a datagram -/

theorem countersFit_iff :
    session.countersFit = true ↔
      (∀ trafficClass, (session.limiter.window trafficClass).count < UInt32.size) ∧
        (∀ packet ∈ session.pending.packets, packet.resends < UInt32.size) ∧
        session.totalResends < UInt64.size := by
  have classes : (∀ trafficClass, (session.limiter.window trafficClass).count < UInt32.size) ↔
      session.limiter.reliable.count < UInt32.size ∧
        session.limiter.unreliable.count < UInt32.size :=
    ⟨fun each => ⟨each .reliable, each .unreliable⟩,
      fun ⟨reliable, unreliable⟩ trafficClass => by cases trafficClass <;> assumption⟩
  simp only [countersFit, Bool.and_eq_true, decide_eq_true_eq, List.all_eq_true, classes, and_assoc]

/-- What is done to a session without sending packets again leaves its counters as they
are. -/
theorem countersFit_of_follows (fit : session.countersFit = true)
    (limiter : next.limiter = session.limiter) (follows : session.pending.Follows next.pending)
    (same : next.totalResends = session.totalResends) : next.countersFit = true := by
  obtain ⟨windows, each, total⟩ := countersFit_iff.mp fit
  exact countersFit_iff.mpr ⟨limiter ▸ windows, follows.resends_lt (by decide) each, same ▸ total⟩

theorem countersFit_create {client : ClientId} {remote : Address} {settings : SessionSettings}
    {flood : FloodSettings} (made : create client remote settings flood now = .ok session) :
    session.countersFit = true := by
  rw [create_eq_ok made]
  rfl

theorem countersFit_of_checkRate {trafficClass : TrafficClass} {decision : RateDecision}
    (h : session.checkRate trafficClass now = .ok (decision, next)) : next.countersFit = true := by
  simp only [checkRate] at h
  split at h
  · rename_i fits
    cases h
    exact fits
  · cases h

/-- A datagram is decided about unless the window of its class is full. -/
theorem checkRate_eq_error_iff {trafficClass : TrafficClass} (fit : session.countersFit = true) :
    session.checkRate trafficClass now = .error halt ↔
      halt = .counterOverflow ∧ (session.limiter.window trafficClass).IsFull now := by
  obtain ⟨windows, each, total⟩ := countersFit_iff.mp fit
  have room : ({ session with limiter := (session.limiter.check trafficClass now).2 } :
      Session).countersFit = true ↔ ¬ (session.limiter.window trafficClass).IsFull now := by
    rw [countersFit_iff, ← CountingWindow.count_hit_lt_iff (windows trafficClass)]
    constructor
    · rintro ⟨after, -⟩
      have here := after trafficClass
      rwa [RateLimiter.window_check, if_pos rfl] at here
    · intro here
      refine ⟨fun other => ?_, each, total⟩
      rw [RateLimiter.window_check]
      split
      · rename_i same
        exact same ▸ here
      · exact windows other
  simp only [checkRate]
  split
  · rename_i fits
    simp only [reduceCtorEq, false_iff, not_and]
    exact fun _ => room.mp fits
  · rename_i full
    rw [Except.error.injEq, eq_comm, and_iff_left (by rwa [room, Classical.not_not] at full)]

/-! ## Looking after a session -/

/-- The peer is there and known, so that a look after its session is more than a look. -/
def IsKeptUp (session : Session) (now : Instant) : Prop :=
  session.state.isOpen = true ∧ session.isIdentified = true ∧ session.isUnresponsive now = false

/-- All packets that are overdue can be counted when they are sent again. -/
def ResendsFit (session : Session) (now : Instant) : Prop :=
  (∀ packet ∈ session.pending.overdue now session.settings.retransmitAfter,
      packet.resends + 1 < UInt32.size) ∧
    session.totalResends +
      (session.pending.overdue now session.settings.retransmitAfter).length < UInt64.size

/-- Why a session cannot be looked after. -/
inductive UpkeepHalts (session : Session) (now : Instant) : Halt → Prop
  /-- A packet was sent again too often to be counted, or all of them were together. -/
  | counters :
    session.IsKeptUp now → ¬ session.ResendsFit now → UpkeepHalts session now .counterOverflow
  /-- There is no number for the ping. -/
  | numbers :
    session.IsKeptUp now → session.ResendsFit now →
    (∀ number, session.pending.isOutstanding number = true) →
    UpkeepHalts session now .sequencesExhausted

theorem countersFit_resendOverdue (fit : session.countersFit = true) :
    (session.resendOverdue now).2.countersFit = true ↔ session.ResendsFit now := by
  obtain ⟨windows, each, total⟩ := countersFit_iff.mp fit
  rw [countersFit_iff, ResendsFit]
  refine ⟨fun ⟨_, after, sum⟩ => ⟨fun packet among => ?_, sum⟩,
    fun ⟨room, sum⟩ => ⟨windows, fun packet present => ?_, sum⟩⟩
  · obtain ⟨present, overdue⟩ := List.mem_filter.mp among
    refine after (packet.resent now) (List.mem_map.mpr ⟨packet, present, ?_⟩)
    rw [if_pos overdue]
  · obtain ⟨before, stored, rfl⟩ := List.mem_map.mp present
    split
    · rename_i overdue
      exact room before (List.mem_filter.mpr ⟨stored, overdue⟩)
    · exact each before stored

theorem sendPing_eq_error_iff :
    session.sendPing now = .error halt ↔
      halt = .sequencesExhausted ∧ ∀ number, session.pending.isOutstanding number = true := by
  rw [← @PendingList.freeAfter_eq_error_iff _ session.outgoingSequence]
  cases free : session.pending.freeAfter session.outgoingSequence with
  | ok sequence => simp [sendPing_of_free free]
  | error reason =>
    have fails : session.sendPing now = .error reason := by
      rw [sendPing, takeSequence, free]
      rfl
    rw [fails, Except.error.injEq, Except.error.injEq]

theorem keepUp_eq_error_iff (fit : session.countersFit = true) :
    session.keepUp now = .error halt ↔
      (halt = .counterOverflow ∧ ¬ session.ResendsFit now) ∨
        (halt = .sequencesExhausted ∧ session.ResendsFit now ∧
          ∀ number, session.pending.isOutstanding number = true) := by
  rw [← countersFit_resendOverdue fit]
  cases counted : (session.resendOverdue now).2.countersFit with
  | false =>
    have fails : session.keepUp now = .error .counterOverflow := by
      rw [keepUp]
      simp only [counted, Bool.not_false, if_true]
      rfl
    rw [fails, Except.error.injEq, eq_comm]
    simp only [Bool.false_eq_true, not_false_eq_true, and_true, false_and, and_false, or_false]
  | true =>
    have pings : session.keepUp now = .error halt ↔
        (session.resendOverdue now).2.sendPing now = .error halt := by
      rw [keepUp]
      simp only [counted, Bool.not_true, Bool.false_eq_true, if_false]
      cases (session.resendOverdue now).2.sendPing now with
      | ok pinged => exact ⟨fun h => (by cases h), fun h => (by cases h)⟩
      | error reason => simp [bind, Except.bind]
    have taken (number : Sequence) : (session.resendOverdue now).2.pending.isOutstanding number =
        session.pending.isOutstanding number := PendingList.isOutstanding_resendOverdue ..
    rw [pings, sendPing_eq_error_iff]
    simp only [taken, not_true_eq_false, and_false, true_and, false_or]

/-- Looking after a session whose counters fit ends unless the packets that are overdue are
too many to be counted, or there is no number for the ping. -/
theorem maintain_eq_error_iff (fit : session.countersFit = true) :
    session.maintain now = .error halt ↔ session.UpkeepHalts now halt := by
  constructor
  · intro h
    unfold maintain at h
    split at h
    · cases h
    rename_i opened
    split at h
    · cases h
    rename_i known
    split at h
    · cases h
    rename_i lively
    have keptUp : session.IsKeptUp now :=
      ⟨by simpa using opened, by simpa using known, by simpa using lively⟩
    rcases (keepUp_eq_error_iff fit).mp h with ⟨rfl, many⟩ | ⟨rfl, few, taken⟩
    · exact .counters keptUp many
    · exact .numbers keptUp few taken
  · intro halts
    have fails (keptUp : session.IsKeptUp now) : session.maintain now = session.keepUp now := by
      obtain ⟨opened, known, lively⟩ := keptUp
      simp [maintain, opened, known, lively]
    cases halts with
    | counters keptUp many =>
      exact (fails keptUp).trans ((keepUp_eq_error_iff fit).mpr (.inl ⟨rfl, many⟩))
    | numbers keptUp few taken =>
      exact (fails keptUp).trans ((keepUp_eq_error_iff fit).mpr (.inr ⟨rfl, few, taken⟩))

end Session

end SessionLayer
