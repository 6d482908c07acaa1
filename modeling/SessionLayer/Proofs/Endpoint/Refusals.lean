import SessionLayer.Proofs.Endpoint.Course
import SessionLayer.Proofs.Session.Refusals

/-!
# Commands to send that are refused

An endpoint refuses a payload for a client that it does not know, and one that the session of
the client refuses. It stores the session again in both ways, so it changes exactly if the
session does: `Endpoint.refused_send_iff` says for sessions and endpoints when a refusal changes
nothing, and what becomes of the numbers where it does.
-/

namespace SessionLayer.Endpoint

variable {endpoint : Endpoint} {remote : Address} {session : Session}

/-- Storing a session where it is stored already changes nothing. -/
theorem put_eq_self_iff (stored : endpoint.roster.get? remote = some session) (next : Session) :
    endpoint.put remote next = endpoint ↔ next = session := by
  constructor
  · intro same
    have found := get?_put_self endpoint remote next
    rw [same, stored, Option.some.injEq] at found
    exact found.symm
  · rintro rfl
    rw [put, Roster.put, Table.insert_of_get? stored]

/-- A refusal changes the endpoint exactly if it costs the session of the client a number. -/
theorem eq_iff_not_wastes {next : Endpoint} {client : ClientId} {payload : Payload}
    {reliable : Bool} {now : Instant} {fault : SessionFault}
    (refused : endpoint.send client payload reliable now = .ok (.error fault, next)) :
    next = endpoint ↔ ∀ remote session, endpoint.find? client = some (remote, session) →
      ¬ session.Wastes reliable fault := by
  rw [send] at refused
  split at refused
  · rename_i absent
    cases refused
    refine iff_of_true rfl fun remote session found => ?_
    rw [absent] at found
    cases found
  · rename_i remote session found
    obtain ⟨-, stored⟩ := eq_of_find? found
    simp only [Halt.bind_eq_ok] at refused
    obtain ⟨⟨answer, after⟩, returned, refused⟩ := refused
    cases answer with
    | ok number => cases refused
    | error fault =>
      cases refused
      rw [put_eq_self_iff stored, Session.eq_iff_not_wastes returned]
      constructor
      · intro keeps remote' session' found'
        rw [found] at found'
        cases found'
        exact keeps
      · exact fun keeps => keeps remote session found

/-- A refusal to send leaves everything as it was, for a session as for an endpoint, exactly if
it does not cost the session a number. The next reliable payload then gets the number that it
would have got anyway; where a number was lost, it gets another one if another is free. -/
theorem refused_send_iff (payload : Payload) (reliable : Bool) (now : Instant)
    (fault : SessionFault) :
    (∀ session next : Session, session.send payload reliable now = .ok (.error fault, next) →
      (next = session ↔ ¬ session.Wastes reliable fault) ∧
        ∀ again later usual sent first second,
          session.send again true later = .ok (.ok (some usual), first) →
          next.send again true later = .ok (.ok (some sent), second) →
          (sent = usual ↔ ¬ session.Wastes reliable fault ∨
            ∀ other ≠ usual, session.pending.isOutstanding other = true)) ∧
    ∀ (endpoint next : Endpoint) client,
      endpoint.send client payload reliable now = .ok (.error fault, next) →
        (next = endpoint ↔ ∀ remote session, endpoint.find? client = some (remote, session) →
          ¬ session.Wastes reliable fault) :=
  ⟨fun _ _ refused => ⟨Session.eq_iff_not_wastes refused,
      fun _ _ _ _ _ _ before after => Session.sent_eq_iff refused before after⟩,
    fun _ _ _ refused => eq_iff_not_wastes refused⟩

/-- What an endpoint with the usual settings becomes when a peer greets it. -/
def greetedOnce : Except Halt (List Outcome × Endpoint) :=
  (create {}).run [.datagram (.v4 default 1) [8, 0, 1, 0, 0, 0, 0, 0, 0] 0]

/-- A payload that is too large costs the client its first number. -/
theorem refused_send_iff_greetedOnce :
    ∃ outcomes endpoint remote session next after first second,
      greetedOnce = .ok (outcomes, endpoint) ∧ endpoint.find? ⟨1⟩ = some (remote, session) ∧
      session.send .oversize true 0 = .ok (.error (.encode (.tooLarge .messageBody)), next) ∧
      endpoint.send ⟨1⟩ .oversize true 0 =
        .ok (.error (.encode (.tooLarge .messageBody)), after) ∧
      session.send ⟨[]⟩ true 0 = .ok (.ok (some 1), first) ∧
      next.send ⟨[]⟩ true 0 = .ok (.ok (some 2), second) ∧
      next ≠ session ∧ after ≠ endpoint ∧
      ¬ ∀ other ≠ 1, session.pending.isOutstanding other = true := by
  obtain ⟨⟨outcomes, endpoint⟩, greeted⟩ := Halt.exists_of_isSome greetedOnce (by decide +kernel)
  have seen : (greetedOnce.toOption.bind fun result => result.2.find? ⟨1⟩).map
      (fun entry => (entry.2.state, entry.2.outgoingSequence, entry.2.pending)) =
      some (.identified, 0, .empty 8) := by
    decide +kernel
  rw [greeted] at seen
  obtain ⟨⟨remote, session⟩, found, seen⟩ := Option.map_eq_some_iff.mp seen
  obtain ⟨identified, seen⟩ := Prod.mk.inj seen
  obtain ⟨none, empty⟩ := Prod.mk.inj seen
  change session.state = _ at identified
  change session.outgoingSequence = _ at none
  change session.pending = _ at empty
  have free : session.pending.freeAfter session.outgoingSequence = .ok 1 := by
    rw [empty, none]
    rfl
  obtain ⟨next, spent⟩ : ∃ next, next = ({ session with outgoingSequence := 1 } : Session) :=
    ⟨_, rfl⟩
  have refused : session.send .oversize true 0 =
      .ok (.error (.encode (.tooLarge .messageBody)), next) :=
    spent ▸ Session.send_of_unwritable identified free Payload.encode_oversize 0
  have behind : next.pending.freeAfter next.outgoingSequence = .ok 2 := by
    rw [spent]
    show session.pending.freeAfter 1 = _
    rw [empty]
    rfl
  have before : session.send ⟨[]⟩ true 0 = _ := Session.send_of_writable identified free rfl 0
  have sent : next.send ⟨[]⟩ true 0 = _ :=
    Session.send_of_writable (spent ▸ identified) behind rfl 0
  have answered : endpoint.send ⟨1⟩ .oversize true 0 =
      .ok (.error (.encode (.tooLarge .messageBody)), endpoint.put remote next) := by
    have found : endpoint.find? ⟨1⟩ = some (remote, session) := found
    rw [send, found]
    show (session.send .oversize true 0 >>= _) = _
    rw [refused]
    rfl
  have wastes : session.Wastes true (.encode (.tooLarge .messageBody)) :=
    ⟨rfl, ⟨_, rfl⟩, 1, by rw [none]; decide, by rw [empty]; rfl⟩
  obtain ⟨sessions, endpoints⟩ :=
    refused_send_iff .oversize true 0 (.encode (.tooLarge .messageBody))
  obtain ⟨alone, numbers⟩ := sessions session _ refused
  have stored := endpoints endpoint _ _ answered
  refine ⟨outcomes, endpoint, remote, session, next, _, _, _, greeted, found, refused, answered,
    before, sent, fun same => alone.mp same wastes, fun same => ?_, fun taken => ?_⟩
  · exact stored.mp same remote session found wastes
  · exact absurd ((numbers ⟨[]⟩ 0 1 2 _ _ before sent).mpr (.inr taken)) (by decide)

end SessionLayer.Endpoint
