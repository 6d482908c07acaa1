import SessionLayer.Proofs.Delivery.Distinct
import SessionLayer.Proofs.Session.Counters
import SessionLayer.Proofs.Session.Run

/-!
# What a session remembers

A session remembers the last packets that it sent and the last numbers that it received. Only an
acknowledgement, a new packet and a look after the session change the former, and only a
greeting and a payload the latter. A new packet gets a number that no waiting packet has. So both
stay within their limits through every run, and their numbers differ: `Session.Bounded`.
-/

namespace SessionLayer.Session

variable {places memory : Nat} {session next : Session} {act : Act} {handed : List Inbound}

/-- The lists of the session are within these limits, and their numbers differ. -/
structure Bounded (places memory : Nat) (session : Session) : Prop where
  pending : session.pending.Sound places
  history : session.history.Sound memory

theorem bounded_create {client : ClientId} {remote : Address} {settings : SessionSettings}
    {flood : FloodSettings} {now : Instant}
    (made : create client remote settings flood now = .ok session) :
    session.Bounded settings.pendingCapacity settings.receivedHistory := by
  rw [create_eq_ok made]
  exact ⟨PendingList.sound_empty _, ReceivedHistory.sound_empty _⟩

/-! ## What is received -/

/-- A packet of the peer adds its number to the history, or leaves it as it is. -/
theorem history_handlePacket (session : Session) (packet : Packet) (now : Instant) :
    (session.handlePacket packet now).2.history = session.history ∨
      ∃ sequence, (session.handlePacket packet now).2.history =
        (session.history.accept sequence).2 := by
  unfold handlePacket
  split
  · cases packet with
    | hello sequence greeting =>
      simp only [onPacket, onHello]
      split
      · exact .inl rfl
      · exact .inr ⟨sequence, rfl⟩
    | reliable sequence payload =>
      simp only [onPacket, onReliable]
      split
      · exact .inl rfl
      refine .inr ⟨sequence, ?_⟩
      split
      · rfl
      split <;> rfl
    | _ => exact .inl rfl
  · exact .inl rfl

theorem history_of_act (returned : session.act act = .ok (handed, next))
    (sound : session.history.Sound memory) : next.history.Sound memory := by
  rcases heard_or_kept returned with ⟨packet, now, -, heard⟩ | ⟨-, same, -⟩
  · have after : next = (session.handlePacket packet now).2 := by rw [heard]
    rcases history_handlePacket session packet now with same | ⟨sequence, accepted⟩
    · rw [after, same]
      exact sound
    · rw [after, accepted]
      exact sound.accept sequence
  · rw [same]
    exact sound

/-! ## What is sent -/

theorem pending_of_handlePacket (sound : session.pending.Sound places) (packet : Packet)
    (now : Instant) : (session.handlePacket packet now).2.pending.Sound places := by
  rcases pending_handlePacket session packet now with same | ⟨sequence, acknowledged⟩
  · rw [same]
    exact sound
  · rw [acknowledged]
    exact sound.acknowledge sequence now

theorem Sending.pending_sound {payload : Payload} {now : Instant} {reliable : Bool}
    {answer : Except SessionFault (Option Sequence)}
    (sending : session.Sending payload now reliable answer next)
    (sound : session.pending.Sound places) : next.pending.Sound places := by
  cases sending with
  | tracked _ free _ => exact sound.record (PendingList.not_outstanding_of_freeAfter free) _ now
  | _ => exact sound

theorem Looking.pending_sound {now : Instant} {upkeep : Upkeep}
    (looking : session.Looking now upkeep next) (sound : session.pending.Sound places) :
    next.pending.Sound places := by
  cases looking with
  | keptUp _ _ _ _ free =>
    rw [expireGaps_frame]
    exact (sound.resendOverdue now _).record (PendingList.not_outstanding_of_freeAfter free) _ now
  | _ => exact sound

theorem pending_of_act (returned : session.act act = .ok (handed, next))
    (sound : session.pending.Sound places) : next.pending.Sound places := by
  cases act with
  | packet packet now =>
    have heard : (session.handlePacket packet now).2 = next :=
      congrArg Prod.snd (Except.ok.inj returned)
    rw [← heard]
    exact pending_of_handlePacket sound packet now
  | check trafficClass now =>
    simp only [Session.act, Halt.bind_eq_ok, Halt.pure_eq_ok, Prod.exists] at returned
    rcases returned with ⟨decision, checked, returned, same⟩
    cases same
    rw [(checkRate_eq_ok returned).2]
    exact sound
  | send payload reliable now =>
    simp only [Session.act, Halt.bind_eq_ok, Halt.pure_eq_ok, Prod.exists] at returned
    rcases returned with ⟨answer, sent, returned, same⟩
    cases same
    exact (sending returned).pending_sound sound
  | ping now =>
    simp only [Session.act, Halt.bind_eq_ok, Halt.pure_eq_ok, Prod.exists] at returned
    rcases returned with ⟨number, pinged, returned, same⟩
    cases same
    obtain ⟨free, rfl⟩ := sendPing_eq_ok returned
    exact sound.record (PendingList.not_outstanding_of_freeAfter free) _ now
  | maintain now =>
    simp only [Session.act, Halt.bind_eq_ok, Halt.pure_eq_ok, Prod.exists] at returned
    rcases returned with ⟨upkeep, kept, returned, same⟩
    cases same
    exact (looking returned).pending_sound sound
  | disconnect farewell =>
    cases returned
    rw [disconnect_frame]
    exact sound
  | markDisconnected | takeOutgoing | setRoom room | clearRoom =>
    cases returned
    exact sound

/-! ## Runs -/

theorem Bounded.of_run {acts : List Act} {log : List Entry} (bounded : session.Bounded places memory)
    (ran : session.run acts = .ok (log, next)) : next.Bounded places memory := by
  induction acts generalizing session log with
  | nil =>
    cases ran
    exact bounded
  | cons act rest ih =>
    obtain ⟨handed, middle, later, returned, others, -⟩ := run_cons_eq_ok.mp ran
    exact ih ⟨pending_of_act returned bounded.pending, history_of_act returned bounded.history⟩
      others

/-- An act sends a new packet under this number. -/
inductive Issues (session : Session) : Act → Sequence → Prop
  | sent {payload : Payload} {now : Instant} {number : Sequence} {next : Session} :
    session.send payload true now = .ok (.ok (some number), next) →
    Issues session (.send payload true now) number
  | pinged {now : Instant} {number : Sequence} {next : Session} :
    session.sendPing now = .ok (number, next) → Issues session (.ping now) number
  /-- A look after a session whose peer is there ends with a ping. -/
  | keptUp {now : Instant} {upkeep : Upkeep} {next : Session} :
    session.IsKeptUp now → session.maintain now = .ok (upkeep, next) →
    Issues session (.maintain now) next.outgoingSequence

theorem Issues.not_outstanding {number : Sequence} (issues : session.Issues act number) :
    session.pending.isOutstanding number = false := by
  cases issues with
  | sent returned =>
    cases sending returned with
    | tracked _ free _ => exact PendingList.not_outstanding_of_freeAfter free
  | pinged returned => exact PendingList.not_outstanding_of_freeAfter (sendPing_eq_ok returned).1
  | @keptUp now _ _ keptUp returned =>
    obtain ⟨opened, known, lively⟩ := keptUp
    cases looking returned with
    | shut closed => rw [opened] at closed; cases closed
    | waiting _ unknown _ | idle _ unknown _ => rw [known] at unknown; cases unknown
    | unresponsive _ _ stalled => rw [lively] at stalled; cases stalled
    | keptUp _ _ _ _ free =>
      rw [expireGaps_frame]
      have unused := PendingList.not_outstanding_of_freeAfter free
      exact (PendingList.isOutstanding_resendOverdue _ now _ _).symm.trans unused

/-- Whatever was done to a session, it remembers no more packets and numbers than it may, no
number that it received twice, and no two waiting packets under one number. So no number is given
to a new packet while a packet with it waits. -/
theorem few_and_distinct {client : ClientId} {remote : Address} {settings : SessionSettings}
    {flood : FloodSettings} {start : Instant} {fresh : Session} {acts : List Act}
    {log : List Entry} (made : create client remote settings flood start = .ok fresh)
    (ran : fresh.run acts = .ok (log, session)) :
    session.pending.packets.length ≤ settings.pendingCapacity ∧
      session.history.recent.length ≤ settings.receivedHistory ∧ session.history.recent.Nodup ∧
      (session.pending.unacked.map PendingPacket.sequence).Nodup ∧
      ∀ act number, session.Issues act number →
        ∀ packet ∈ session.pending.unacked, packet.sequence ≠ number := by
  obtain ⟨pending, history⟩ := (bounded_create made).of_run ran
  refine ⟨pending.few, history.few, history.distinct, pending.distinct,
    fun act number issues packet waits same => ?_⟩
  have taken : session.pending.isOutstanding number = true :=
    PendingList.isOutstanding_iff.mpr (List.mem_map.mpr ⟨packet, waits, same⟩)
  rw [issues.not_outstanding] at taken
  cases taken

/-- Three payloads and a ping, of which the second was acknowledged, and a payload of the peer
that came twice. -/
def crowdedLists : List Act :=
  [.packet (.hello 0 (.brief default "")) 0, .send ⟨[]⟩ true 0, .send ⟨[]⟩ true 0,
    .packet (.acknowledge 2 255) 0, .packet (.reliable 1 ⟨[]⟩) 0, .packet (.reliable 1 ⟨[]⟩) 0,
    .send ⟨[]⟩ true 0, .maintain 1000]

theorem few_and_distinct_crowdedLists :
    ∃ fresh log session number next,
      create ⟨1⟩ default { pendingCapacity := 3, receivedHistory := 1 } {} 0 = .ok fresh ∧
      fresh.run crowdedLists = .ok (log, session) ∧ session.sendPing 2000 = .ok (number, next) ∧
      session.pending.packets.length ≤ 3 ∧ session.history.recent.length ≤ 1 ∧
      session.history.recent.Nodup ∧
      (session.pending.unacked.map PendingPacket.sequence).Nodup ∧
      ∀ packet ∈ session.pending.unacked, packet.sequence ≠ number := by
  obtain ⟨fresh, made⟩ := Halt.exists_of_isSome
    (create ⟨1⟩ default { pendingCapacity := 3, receivedHistory := 1 } {} 0) (by decide +kernel)
  have seen : (fresh.run crowdedLists).toOption.any
      (fun result => (result.2.sendPing 2000).toOption.isSome) = true := by
    rw [create_eq_ok made]
    decide +kernel
  obtain ⟨⟨log, session⟩, ran, seen⟩ := Halt.exists_of_any seen
  obtain ⟨⟨number, next⟩, pinged⟩ := Halt.exists_of_isSome _ seen
  obtain ⟨packets, numbers, received, sent, issued⟩ := few_and_distinct made ran
  exact ⟨fresh, log, session, number, next, made, ran, pinged, packets, numbers, received, sent,
    issued _ number (.pinged pinged)⟩

end SessionLayer.Session
