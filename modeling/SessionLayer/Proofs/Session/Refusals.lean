import SessionLayer.Proofs.Delivery.Free
import SessionLayer.Proofs.Packet.Written
import SessionLayer.Proofs.Session.Cases

/-!
# Payloads that are refused

A session refuses a payload before its client has said who it is, when it is over, and when the
payload cannot be written. A reliable payload is written under its number, so in the last case
the number was taken before. Nothing else of the session changes, but the number is lost
(`Session.Wastes`): the next payload gets the free number behind it. `Session.eq_iff_not_wastes`
and `Session.sent_eq_iff` say so exactly.
-/

namespace SessionLayer

theorem Packet.encode_reliable_of_error {payload : Payload} {fault : WireFault}
    (unwritable : payload.encode = .error fault) (sequence : Sequence) :
    (Packet.reliable sequence payload).encode = .error fault := by
  rw [Packet.encode, Packet.encodeBody, unwritable]
  rfl

/-- A message whose body is one byte longer than its frame can say. -/
def Payload.oversize : Payload := ⟨[.ofBytes 1 (List.replicate 65536 0)]⟩

theorem Payload.encode_oversize : oversize.encode = .error (.tooLarge .messageBody) := by
  refine Payload.encode_eq_error_iff.mpr ⟨rfl, _, List.mem_singleton_self _, ?_⟩
  rw [Message.bytes_ofBytes, List.length_replicate]
  decide

namespace Session

variable {session next : Session} {payload : Payload} {reliable : Bool} {now : Instant}
  {number : Sequence}

theorem takeSequence_of_free
    (free : session.pending.freeAfter session.outgoingSequence = .ok number) :
    session.takeSequence = .ok (number, { session with outgoingSequence := number }) := by
  rw [takeSequence, free]
  rfl

/-- A reliable payload takes the next free number. -/
theorem send_of_writable {datagram : Bytes} (identified : session.state = .identified)
    (free : session.pending.freeAfter session.outgoingSequence = .ok number)
    (written : (Packet.reliable number payload).encode = .ok datagram) (now : Instant) :
    session.send payload true now =
      .ok (.ok (some number),
        { session with outgoingSequence := number }.track number datagram now) := by
  have willing : session.sendFault? = none := by rw [sendFault?, identified]
  rw [send, willing, if_pos rfl, sendReliable, Halt.bind_eq_ok]
  refine ⟨_, takeSequence_of_free free, ?_⟩
  simp only [written]
  rfl

/-- One that cannot be written takes it all the same. -/
theorem send_of_unwritable {fault : WireFault} (identified : session.state = .identified)
    (free : session.pending.freeAfter session.outgoingSequence = .ok number)
    (unwritable : payload.encode = .error fault) (now : Instant) :
    session.send payload true now =
      .ok (.error (.encode fault), { session with outgoingSequence := number }) := by
  have willing : session.sendFault? = none := by rw [sendFault?, identified]
  have refused := Packet.encode_reliable_of_error unwritable number
  rw [send, willing, if_pos rfl, sendReliable, Halt.bind_eq_ok]
  refine ⟨_, takeSequence_of_free free, ?_⟩
  simp only [refused]
  rfl

/-- Refusing a payload with this fault costs a number: the payload had one, and it is another
than the one that was taken last. -/
structure Wastes (session : Session) (reliable : Bool) (fault : SessionFault) : Prop where
  reliable : reliable = true
  unwritable : ∃ wire, fault = .encode wire
  free : ∃ number ≠ session.outgoingSequence, session.pending.isOutstanding number = false

/-- A refusal leaves the session alone or costs it the next free number. -/
theorem keeps_or_wastes {fault : SessionFault}
    (refused : session.send payload reliable now = .ok (.error fault, next)) :
    (¬ session.Wastes reliable fault ∧ next = session) ∨
      session.Wastes reliable fault ∧ ∃ number,
        session.pending.freeAfter session.outgoingSequence = .ok number ∧
          number ≠ session.outgoingSequence ∧
          next = { session with outgoingSequence := number } := by
  cases sending refused with
  | refused found =>
    refine .inl ⟨fun wastes => ?_, rfl⟩
    obtain ⟨wire, rfl⟩ := wastes.unwritable
    rw [sendFault?] at found
    split at found <;> cases found
  | unwritable _ _ => exact .inl ⟨fun wastes => Bool.false_ne_true wastes.reliable, rfl⟩
  | @spoiled number wire _ free _ =>
    by_cases same : number = session.outgoingSequence
    · refine .inl ⟨fun wastes => ?_, by rw [same]⟩
      obtain ⟨other, apart, unused⟩ := wastes.free
      rw [(PendingList.freeAfter_eq_self_iff free).mp same other apart] at unused
      cases unused
    · obtain ⟨_, _, _, unused, _⟩ := PendingList.passed_of_freeAfter free
      exact .inr ⟨⟨rfl, ⟨wire, rfl⟩, number, same, unused⟩, number, free, same, rfl⟩

theorem eq_iff_not_wastes {fault : SessionFault}
    (refused : session.send payload reliable now = .ok (.error fault, next)) :
    next = session ↔ ¬ session.Wastes reliable fault := by
  rcases keeps_or_wastes refused with ⟨keeps, same⟩ | ⟨wastes, number, -, apart, rfl⟩
  · exact iff_of_true same keeps
  · exact iff_of_false (fun same => apart (congrArg outgoingSequence same))
      fun keeps => keeps wastes

/-- The number of a reliable payload is the free one behind the last that was taken. -/
theorem freeAfter_of_sent {finish : Session} {sent : Sequence}
    (returned : session.send payload true now = .ok (.ok (some sent), finish)) :
    session.pending.freeAfter session.outgoingSequence = .ok sent := by
  cases sending returned with
  | tracked _ free _ => exact free

/-- After a refusal the next reliable payload gets the number that it would have got anyway,
exactly if the refusal cost no number or no other number is free. -/
theorem sent_eq_iff {fault : SessionFault}
    (refused : session.send payload reliable now = .ok (.error fault, next)) {again : Payload}
    {later : Instant} {usual sent : Sequence} {first second : Session}
    (before : session.send again true later = .ok (.ok (some usual), first))
    (after : next.send again true later = .ok (.ok (some sent), second)) :
    sent = usual ↔ ¬ session.Wastes reliable fault ∨
      ∀ other ≠ usual, session.pending.isOutstanding other = true := by
  have free := freeAfter_of_sent before
  have behind := freeAfter_of_sent after
  rcases keeps_or_wastes refused with ⟨keeps, rfl⟩ | ⟨wastes, number, taken, apart, rfl⟩
  · rw [free, Except.ok.injEq] at behind
    exact iff_of_true behind.symm (.inl keeps)
  · rw [free, Except.ok.injEq] at taken
    subst taken
    rw [PendingList.freeAfter_eq_self_iff behind]
    simp only [wastes, not_true_eq_false, false_or]

end Session

end SessionLayer
