import SessionLayer.Proofs.Delivery.Laps
import SessionLayer.Proofs.Session.Counters
import SessionLayer.Proofs.Session.Refusals
import SessionLayer.Proofs.Session.Run

/-!
# Acknowledgements that take effect

An acknowledgement marks the oldest remembered packet with its number, also where that packet was
acknowledged before. It misses the packet that waits for it if both have the same number.
`Session.takings` reads off a run what became of the numbers that were taken, and `laps_run` follows
the counter around the ring. So `Session.acknowledges_of_thrifty`: an open session takes every
acknowledgement that it waits for, unless so many numbers were lost that the counter may have gone
around the ring while a packet was remembered.
-/

namespace SessionLayer.Session

variable {session next finish : Session} {capacity : Nat} {places : List Place} {now : Instant}

instance (session : Session) (now : Instant) : Decidable (session.IsKeptUp now) :=
  inferInstanceAs (Decidable (_ ∧ _ ∧ _))

/-- What an act makes of a number, if it takes one. -/
def taking? (session : Session) : Act → Option Taking
  | .send payload true now =>
    match session.send payload true now with
    | .ok (.ok _, _) => some .sent
    | .ok (.error (.encode _), _) => some .lost
    | _ => none
  | .ping _ => some .sent
  | .maintain now => if session.IsKeptUp now then some .sent else none
  | _ => none

/-- What a run makes of the numbers that it takes, in order. -/
def takings (session : Session) : List Act → List Taking
  | [] => []
  | act :: rest =>
    (session.taking? act).toList ++
      match session.act act with
      | .ok (_, next) => next.takings rest
      | .error _ => []

/-! ## The counter -/

/-- Packets from the peer leave the counter and the numbers of the pending packets alone. -/
theorem laps_handlePacket
    (laps : session.pending.Laps capacity session.outgoingSequence places) (packet : Packet)
    (now : Instant) :
    (session.handlePacket packet now).2.pending.Laps capacity
      (session.handlePacket packet now).2.outgoingSequence places := by
  have counter : (session.handlePacket packet now).2.outgoingSequence =
      session.outgoingSequence := by
    rw [handlePacket_frame]
  rw [counter]
  rcases session.pending_handlePacket packet now with same | ⟨sequence, acknowledged⟩
  · rwa [same]
  · rw [acknowledged]
    exact laps.congr rfl
      (PendingList.map_acknowledgeIn PendingPacket.sequence (fun _ => rfl) sequence now _)

theorem laps_send {payload : Payload} {reliable : Bool}
    {answer : Except SessionFault (Option Sequence)}
    (laps : session.pending.Laps capacity session.outgoingSequence places)
    (returned : session.send payload reliable now = .ok (answer, next)) :
    ∃ more, Place.takings more = (session.taking? (.send payload reliable now)).toList ∧
      next.pending.Laps capacity next.outgoingSequence (places ++ more) := by
  cases sending returned with
  | refused found =>
    refine ⟨[], ?_, by rwa [List.append_nil]⟩
    cases reliable with
    | false => rfl
    | true =>
      rw [taking?, returned]
      rw [sendFault?] at found
      split at found <;> cases found <;> rfl
  | posted _ _ | unwritable _ _ => exact ⟨[], rfl, by rwa [List.append_nil]⟩
  | tracked _ free _ =>
    obtain ⟨more, sent, further⟩ := laps.track free _ now
    exact ⟨more, by rw [sent, taking?, returned]; rfl, further⟩
  | spoiled _ free _ =>
    obtain ⟨more, lost, further⟩ := laps.spoil free
    exact ⟨more, by rw [lost, taking?, returned]; rfl, further⟩

theorem laps_sendPing {number : Sequence}
    (laps : session.pending.Laps capacity session.outgoingSequence places)
    (returned : session.sendPing now = .ok (number, next)) :
    ∃ more, Place.takings more = [.sent] ∧
      next.pending.Laps capacity next.outgoingSequence (places ++ more) := by
  obtain ⟨free, rfl⟩ := sendPing_eq_ok returned
  exact laps.track free _ now

theorem laps_maintain {upkeep : Upkeep}
    (laps : session.pending.Laps capacity session.outgoingSequence places)
    (returned : session.maintain now = .ok (upkeep, next)) :
    ∃ more, Place.takings more = (session.taking? (.maintain now)).toList ∧
      next.pending.Laps capacity next.outgoingSequence (places ++ more) := by
  have still (unkept : ¬ session.IsKeptUp now) :
      ∃ more, Place.takings more = (session.taking? (.maintain now)).toList ∧
        session.pending.Laps capacity session.outgoingSequence (places ++ more) :=
    ⟨[], by rw [taking?, if_neg unkept]; rfl, by rwa [List.append_nil]⟩
  cases looking returned with
  | shut closed => exact still fun kept => Bool.false_ne_true (closed.symm.trans kept.1)
  | waiting _ unknown _ | idle _ unknown _ =>
    exact still fun kept => Bool.false_ne_true (unknown.symm.trans kept.2.1)
  | unresponsive _ _ stalled =>
    exact still fun kept => Bool.false_ne_true (kept.2.2.symm.trans stalled)
  | keptUp opened known lively _ free =>
    have resent : (session.resendOverdue now).2.pending.Laps capacity session.outgoingSequence
        places :=
      laps.congr rfl (PendingList.map_resendOverdue PendingPacket.sequence now (fun _ => rfl) _ _)
    obtain ⟨more, sent, further⟩ := resent.track free _ now
    rw [expireGaps_frame]
    exact ⟨more, by rw [sent, taking?, if_pos ⟨opened, known, lively⟩]; rfl, further⟩

theorem laps_act {act : Act} {handed : List Inbound}
    (laps : session.pending.Laps capacity session.outgoingSequence places)
    (returned : session.act act = .ok (handed, next)) :
    ∃ more, Place.takings more = (session.taking? act).toList ∧
      next.pending.Laps capacity next.outgoingSequence (places ++ more) := by
  have still (same : next.pending = session.pending)
      (counter : next.outgoingSequence = session.outgoingSequence) :
      ∃ more, Place.takings more = [] ∧
        next.pending.Laps capacity next.outgoingSequence (places ++ more) :=
    ⟨[], rfl, by rwa [List.append_nil, same, counter]⟩
  cases act with
  | packet packet now =>
    have heard := laps_handlePacket laps packet now
    have same : session.handlePacket packet now = (handed, next) := Except.ok.inj returned
    rw [same] at heard
    exact ⟨[], rfl, by rwa [List.append_nil]⟩
  | check trafficClass now =>
    simp only [Session.act, Halt.bind_eq_ok, Halt.pure_eq_ok, Prod.exists] at returned
    obtain ⟨decision, checked, returned, same⟩ := returned
    cases same
    rw [(checkRate_eq_ok returned).2] at still ⊢
    exact still rfl rfl
  | send payload reliable now =>
    simp only [Session.act, Halt.bind_eq_ok, Halt.pure_eq_ok, Prod.exists] at returned
    obtain ⟨answer, sent, returned, same⟩ := returned
    cases same
    exact laps_send laps returned
  | ping now =>
    simp only [Session.act, Halt.bind_eq_ok, Halt.pure_eq_ok, Prod.exists] at returned
    obtain ⟨number, pinged, returned, same⟩ := returned
    cases same
    exact laps_sendPing laps returned
  | maintain now =>
    simp only [Session.act, Halt.bind_eq_ok, Halt.pure_eq_ok, Prod.exists] at returned
    obtain ⟨upkeep, kept, returned, same⟩ := returned
    cases same
    exact laps_maintain laps returned
  | disconnect farewell =>
    cases returned
    rw [disconnect_frame] at still ⊢
    exact still rfl rfl
  | markDisconnected | takeOutgoing | setRoom room | clearRoom =>
    cases returned
    exact still rfl rfl

theorem laps_create {client : ClientId} {remote : Address} {settings : SessionSettings}
    {flood : FloodSettings} (made : create client remote settings flood now = .ok session) :
    session.pending.Laps settings.pendingCapacity session.outgoingSequence [] := by
  rw [create_eq_ok made]
  exact PendingList.laps_empty _

/-- Through every run the places of the counter tell what became of the numbers. -/
theorem laps_run {acts : List Act} {log : List Entry}
    (laps : session.pending.Laps capacity session.outgoingSequence places)
    (ran : session.run acts = .ok (log, finish)) :
    ∃ more, Place.takings more = session.takings acts ∧
      finish.pending.Laps capacity finish.outgoingSequence (places ++ more) := by
  induction acts generalizing session places log with
  | nil =>
    cases ran
    exact ⟨[], rfl, by rwa [List.append_nil]⟩
  | cons act rest ih =>
    obtain ⟨handed, middle, _, returned, onward, -⟩ := run_cons_eq_ok.mp ran
    obtain ⟨first, here, laps⟩ := laps_act laps returned
    obtain ⟨others, later, laps⟩ := ih laps onward
    refine ⟨first ++ others, ?_, by rwa [← List.append_assoc]⟩
    rw [Place.takings_append, here, later, takings, returned]

/-! ## Acknowledgements -/

/-- An acknowledgement takes effect: one packet less waits, and none with its number. -/
def Acknowledges (session : Session) (sequence : Sequence) (missing : UInt8) (now : Instant) :
    Prop :=
  (session.handlePacket (.acknowledge sequence missing) now).2.unackedCount + 1 =
      session.unackedCount ∧
    (session.handlePacket (.acknowledge sequence missing) now).2.pending.isOutstanding sequence =
      false

variable {sequence : Sequence} {missing : UInt8}

theorem not_acknowledges_of_pending_eq
    (same : (session.handlePacket (.acknowledge sequence missing) now).2.pending =
      session.pending) : ¬ session.Acknowledges sequence missing now := by
  rintro ⟨fewer, -⟩
  rw [unackedCount, same, unackedCount] at fewer
  omega

/-- In an open session the pending packets take the acknowledgement. -/
theorem pending_handlePacket_acknowledge (opened : session.state.isOpen = true)
    (sequence : Sequence) (missing : UInt8) (now : Instant) :
    (session.handlePacket (.acknowledge sequence missing) now).2.pending =
      (session.pending.acknowledge sequence now).2 := by
  rw [handlePacket, if_pos opened]
  rfl

/-- Take any run of a new session in which, between two packets that are both still remembered,
not so many reliable payloads could not be written. If the session is open at the end, every
acknowledgement of a packet that waits takes effect. -/
theorem acknowledges_of_thrifty {client : ClientId} {remote : Address}
    {settings : SessionSettings} {flood : FloodSettings} {fresh : Session} {acts : List Act}
    {log : List Entry} (made : create client remote settings flood now = .ok fresh)
    (ran : fresh.run acts = .ok (log, session)) (opened : session.state.isOpen = true)
    (thrifty : Thrifty settings.pendingCapacity (fresh.takings acts))
    (waits : session.pending.isOutstanding sequence = true) (missing : UInt8) (later : Instant) :
    session.Acknowledges sequence missing later := by
  obtain ⟨places, same, laps⟩ := laps_run (laps_create made) ran
  rw [List.nil_append] at laps
  have distinct := laps.nodup (same ▸ thrifty)
  rw [Acknowledges, unackedCount, pending_handlePacket_acknowledge opened]
  exact PendingList.acknowledge_of_nodup distinct waits later

/-- A payload and two pings, of which the first is acknowledged. -/
def pingedTwice : List Act :=
  [.packet (.hello 1 (.brief default "")) 0, .send ⟨[]⟩ true 0, .ping 1,
    .packet (.acknowledge 2 255) 2, .maintain 3]

/-- The payload and the second ping still wait for their acknowledgements. -/
theorem acknowledges_of_thrifty_pingedTwice :
    ∃ fresh log session, create ⟨1⟩ default {} {} 0 = .ok fresh ∧
      fresh.run pingedTwice = .ok (log, session) ∧ session.state.isOpen = true ∧
      fresh.takings pingedTwice = [.sent, .sent, .sent] ∧
      session.pending.isOutstanding 3 = true ∧ session.Acknowledges 3 255 4 := by
  obtain ⟨fresh, made⟩ := Halt.exists_of_isSome (create ⟨1⟩ default {} {} 0) (by decide +kernel)
  have same := create_eq_ok made
  obtain ⟨⟨log, session⟩, ran⟩ := Halt.exists_of_isSome (fresh.run pingedTwice)
    (by rw [same]; decide +kernel)
  have seen : ((fresh.run pingedTwice).toOption.map fun result =>
      (result.2.state.isOpen, result.2.pending.isOutstanding 3)) = some (true, true) := by
    rw [same]
    decide +kernel
  rw [ran] at seen
  obtain ⟨opened, waits⟩ := Prod.mk.inj (Option.some.inj seen)
  have all : fresh.takings pingedTwice = [.sent, .sent, .sent] := by
    rw [same]
    decide +kernel
  exact ⟨fresh, log, session, made, ran, opened, all, waits, acknowledges_of_thrifty made ran opened
    (all ▸ thrifty_of_count_le (by decide)) waits 255 4⟩

/-! ## Acknowledgements without effect -/

/-- A peer that leaves while a payload waits for its acknowledgement. -/
def leftWaiting : List Act :=
  [.packet (.hello 1 (.brief default "")) 0, .send ⟨[]⟩ true 0, .packet (.disconnect none) 0]

/-- A payload that is acknowledged. -/
def answered : List Act :=
  [.packet (.hello 1 (.brief default "")) 0, .send ⟨[]⟩ true 0, .packet (.acknowledge 1 255) 0]

/-- After it as many payloads that cannot be written as lead to the same number again. -/
def onceAround : List Act :=
  answered ++ (List.replicate 65535 (.send .oversize true 0) ++ [.send ⟨[]⟩ true 0])

/-- While no packet waits, each payload that cannot be written costs one number. -/
theorem run_replicate_of_unwritable {payload : Payload} {fault : WireFault}
    (identified : session.state = .identified)
    (idle : ∀ number, session.pending.isOutstanding number = false)
    (unwritable : payload.encode = .error fault) (now : Instant) (count : Nat) :
    ∃ log finish, session.run (List.replicate count (.send payload true now)) = .ok (log, finish) ∧
      finish.state = .identified ∧ finish.pending = session.pending ∧
      finish.outgoingSequence = session.outgoingSequence + UInt16.ofNat count := by
  induction count generalizing session with
  | zero => exact ⟨[], session, rfl, identified, rfl, (UInt16.add_zero _).symm⟩
  | succ count ih =>
    have free := PendingList.freeAfter_of_free (idle (session.outgoingSequence + 1))
    have first := send_of_unwritable identified free unwritable now
    have taken : ({ session with
        outgoingSequence := session.outgoingSequence + 1 } : Session).state = .identified :=
      identified
    obtain ⟨log, finish, others, stage, pending, counter⟩ := ih taken idle
    refine ⟨_, finish, run_cons_eq_ok.mpr ⟨[], _, log, act_send_of_ok first, others, rfl⟩, stage,
      pending, ?_⟩
    rw [counter, Nat.add_comm, UInt16.ofNat_add, ← UInt16.add_assoc]
    rfl

/-- A session that the peer has left ignores the acknowledgement that it waits for. An open one
misses it where the number was around the ring while the packet before was remembered. -/
theorem not_acknowledges_leftWaiting_onceAround :
    ∃ fresh, create ⟨1⟩ default {} {} 0 = .ok fresh ∧
      (∃ log session, fresh.run leftWaiting = .ok (log, session) ∧
        session.pending.isOutstanding 1 = true ∧ ¬ session.Acknowledges 1 255 0) ∧
      ∃ log session, fresh.run onceAround = .ok (log, session) ∧
        session.state.isOpen = true ∧ session.pending.isOutstanding 1 = true ∧
        ¬ session.Acknowledges 1 255 0 := by
  obtain ⟨fresh, made⟩ := Halt.exists_of_isSome (create ⟨1⟩ default {} {} 0) (by decide +kernel)
  have same := create_eq_ok made
  refine ⟨fresh, made, ?_, ?_⟩
  · obtain ⟨⟨log, session⟩, ran⟩ := Halt.exists_of_isSome (fresh.run leftWaiting)
      (by rw [same]; decide +kernel)
    have seen : ((fresh.run leftWaiting).toOption.map fun result =>
        (result.2.state.isOpen, result.2.pending.isOutstanding 1)) = some (false, true) := by
      rw [same]
      decide +kernel
    rw [ran] at seen
    obtain ⟨closed, waits⟩ := Prod.mk.inj (Option.some.inj seen)
    change session.state.isOpen = false at closed
    refine ⟨log, session, ran, waits, not_acknowledges_of_pending_eq ?_⟩
    rw [handlePacket, closed, if_neg Bool.false_ne_true]
  · obtain ⟨⟨before, start⟩, ran⟩ := Halt.exists_of_isSome (fresh.run answered)
      (by rw [same]; decide +kernel)
    have seen : ((fresh.run answered).toOption.map fun result =>
        (result.2.state, result.2.outgoingSequence, result.2.pending)) =
        some (.identified, 1, ⟨8, [⟨1, [1, 0, 1], 0, 0, true, 0⟩]⟩) := by
      rw [same]
      decide +kernel
    rw [ran] at seen
    obtain ⟨identified, seen⟩ := Prod.mk.inj (Option.some.inj seen)
    obtain ⟨one, done⟩ := Prod.mk.inj seen
    change start.state = _ at identified
    change start.outgoingSequence = _ at one
    change start.pending = _ at done
    have idle (number : Sequence) : start.pending.isOutstanding number = false := by
      simp [done, PendingList.isOutstanding]
    obtain ⟨between, lap, spoiled, identified, still, counter⟩ :=
      run_replicate_of_unwritable identified idle Payload.encode_oversize 0 65535
    have free : lap.pending.freeAfter lap.outgoingSequence = .ok 1 := by
      rw [counter, one, still]
      exact PendingList.freeAfter_of_free (idle _)
    obtain ⟨session, last, stage, pending⟩ :
        ∃ session, lap.act (.send ⟨[]⟩ true 0) = .ok ([], session) ∧ session.state = lap.state ∧
          session.pending = (start.pending.record 1 [1, 0, 1] 0).2 :=
      ⟨_, act_send_of_ok (send_of_writable identified free rfl 0), rfl, by rw [← still]; rfl⟩
    rw [done] at pending
    have opened : session.state.isOpen = true := by
      rw [stage, identified]
      rfl
    refine ⟨_, session, run_append ran (run_append spoiled (run_singleton last)), opened, ?_,
      not_acknowledges_of_pending_eq ?_⟩
    · rw [pending]
      rfl
    · rw [pending_handlePacket_acknowledge opened, pending]
      rfl

end SessionLayer.Session
