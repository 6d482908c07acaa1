import SessionLayer.Proofs.Session.Run

/-!
# Sessions that are over

A session that is closed stays closed. It ignores packets, refuses payloads, is not looked
after and says no farewell, so nothing is handed up and nothing goes out. Only a ping that is
asked for directly still goes out, and waits for an acknowledgement that is never taken:
`Session.OnlyPinged` says of every run from a closed session that this is all that happens to it,
and `Session.closed_silent_iff` that it is silent exactly if no ping is asked for.
-/

namespace SessionLayer.Session

/-- What the peer, the application and the regular upkeep do to a session. The rest only keeps
its books: limits, rooms, and datagrams that are fetched. -/
def Act.isTraffic : Act → Bool
  | .packet _ _ | .send _ _ _ | .ping _ | .maintain _ | .disconnect _ | .markDisconnected => true
  | .check _ _ | .takeOutgoing | .setRoom _ | .clearRoom => false

/-- When an act asks for a ping, if it does. -/
def Act.pingedAt? : Act → Option Instant
  | .ping now => some now
  | _ => none

/-- A ping that went out. -/
structure SentPing where
  number : Sequence
  now : Instant

/-- The datagram of a ping. -/
def SentPing.datagram (ping : SentPing) : Bytes := PacketKind.ping.tag :: Wire.u16be ping.number

/-- The list that also remembers a ping. -/
def SentPing.record (list : PendingList) (ping : SentPing) : PendingList :=
  (list.record ping.number ping.datagram ping.now).2

/-- A session that was closed, later: it is closed, and nothing but these pings went out. -/
structure OnlyPinged (session : Session) (pings : List SentPing) (later : Session) : Prop where
  closed : later.state.isOpen = false
  final : session.state = .disconnected → later.state = .disconnected
  outbox : later.outbox.toList = session.outbox.toList ++ pings.map SentPing.datagram
  pending : later.pending = pings.foldl SentPing.record session.pending

variable {session middle later : Session} {act : Act} {handed : List Inbound}

theorem OnlyPinged.still (closed : later.state.isOpen = false)
    (final : session.state = .disconnected → later.state = .disconnected)
    (outbox : later.outbox = session.outbox) (pending : later.pending = session.pending) :
    session.OnlyPinged [] later where
  closed := closed
  final := final
  outbox := by rw [outbox, List.map_nil, List.append_nil]
  pending := pending

theorem OnlyPinged.refl (closed : session.state.isOpen = false) : session.OnlyPinged [] session :=
  .still closed id rfl rfl

theorem OnlyPinged.trans {first second : List SentPing} (left : session.OnlyPinged first middle)
    (right : middle.OnlyPinged second later) : session.OnlyPinged (first ++ second) later where
  closed := right.closed
  final := right.final ∘ left.final
  outbox := by rw [right.outbox, left.outbox, List.append_assoc, List.map_append]
  pending := by rw [right.pending, left.pending, List.foldl_append]

/-! ## One act -/

theorem handlePacket_of_closed (closed : session.state.isOpen = false) (packet : Packet)
    (now : Instant) : session.handlePacket packet now = ([], session) := by
  rw [handlePacket, closed, if_neg Bool.false_ne_true]

theorem send_of_closed (closed : session.state.isOpen = false) (payload : Payload)
    (reliable : Bool) (now : Instant) :
    session.send payload reliable now = .ok (.error (.closed session.client), session) := by
  have refused : session.sendFault? = some (.closed session.client) := by
    rw [sendFault?]
    cases stage : session.state with
    | unidentified | identified => rw [stage] at closed; cases closed
    | disconnecting | disconnected => rfl
  rw [send, refused]

theorem maintain_of_closed (closed : session.state.isOpen = false) (now : Instant) :
    session.maintain now = .ok (.only .alive, session) := by
  rw [maintain, closed, Bool.not_false, if_pos rfl]

theorem disconnect_of_closed (closed : session.state.isOpen = false)
    (farewell : Option Farewell) : session.disconnect farewell = (false, session) := by
  rw [disconnect, closed, Bool.not_false, Bool.or_true, if_pos rfl]

/-- No part of the traffic but pings makes a closed session do anything. -/
theorem act_of_closed (closed : session.state.isOpen = false) (traffic : act.isTraffic = true)
    (unpinged : act.pingedAt? = none) :
    ∃ later, session.act act = .ok ([], later) ∧ session.OnlyPinged [] later := by
  cases act with
  | packet packet now =>
    exact ⟨session, by rw [Session.act, handlePacket_of_closed closed], .refl closed⟩
  | send payload reliable now =>
    exact ⟨session, by rw [Session.act, send_of_closed closed]; rfl, .refl closed⟩
  | maintain now =>
    exact ⟨session, by rw [Session.act, maintain_of_closed closed]; rfl, .refl closed⟩
  | disconnect farewell =>
    exact ⟨session, by rw [Session.act, disconnect_of_closed closed], .refl closed⟩
  | markDisconnected =>
    exact ⟨session.markDisconnected.2, rfl, .still rfl (fun _ => rfl) rfl rfl⟩
  | ping now => cases unpinged
  | check _ _ | takeOutgoing | setRoom _ | clearRoom => cases traffic

/-- A ping goes out all the same. -/
theorem onlyPinged_sendPing {number : Sequence} {now : Instant}
    (closed : session.state.isOpen = false)
    (returned : session.sendPing now = .ok (number, later)) :
    session.OnlyPinged [⟨number, now⟩] later := by
  rw [(sendPing_eq_ok returned).2]
  exact ⟨closed, id, Queue.toList_push _ _, rfl⟩

theorem onlyPinged_act (closed : session.state.isOpen = false) (traffic : act.isTraffic = true)
    (returned : session.act act = .ok (handed, later)) :
    handed = [] ∧ ∃ pings, pings.map SentPing.now = act.pingedAt?.toList ∧
      session.OnlyPinged pings later := by
  cases asked : act.pingedAt? with
  | none =>
    obtain ⟨next, same, pinged⟩ := act_of_closed closed traffic asked
    rw [same] at returned
    cases returned
    exact ⟨rfl, [], rfl, pinged⟩
  | some now =>
    cases act with
    | ping now =>
      cases asked
      simp only [Session.act, Halt.bind_eq_ok, Halt.pure_eq_ok, Prod.exists] at returned
      obtain ⟨number, pinged, returned, same⟩ := returned
      cases same
      exact ⟨rfl, [⟨number, now⟩], rfl, onlyPinged_sendPing closed returned⟩
    | _ => cases asked

/-! ## Runs -/

theorem onlyPinged_run {acts : List Act} {log : List Entry} (closed : session.state.isOpen = false)
    (traffic : ∀ act ∈ acts, act.isTraffic = true) (ran : session.run acts = .ok (log, later)) :
    handedUp log = [] ∧ ∃ pings, pings.map SentPing.now = acts.filterMap Act.pingedAt? ∧
      session.OnlyPinged pings later := by
  induction acts generalizing session log with
  | nil =>
    cases ran
    exact ⟨rfl, [], rfl, .refl closed⟩
  | cons act rest ih =>
    obtain ⟨first, others⟩ := List.forall_mem_cons.mp traffic
    obtain ⟨handed, middle, _, returned, onward, rfl⟩ := run_cons_eq_ok.mp ran
    obtain ⟨rfl, pings, asked, pinged⟩ := onlyPinged_act closed first returned
    obtain ⟨none, more, askedLater, still⟩ := ih pinged.closed others onward
    refine ⟨none, pings ++ more, ?_, pinged.trans still⟩
    rw [List.map_append, asked, askedLater]
    cases asking : act.pingedAt? with
    | none => rw [List.filterMap_cons_none asking, Option.toList_none, List.nil_append]
    | some now => rw [List.filterMap_cons_some asking, Option.toList_some, List.singleton_append]

theorem exists_run_of_unpinged {acts : List Act} (closed : session.state.isOpen = false)
    (traffic : ∀ act ∈ acts, act.isTraffic = true)
    (unpinged : ∀ act ∈ acts, act.pingedAt? = none) :
    ∃ log later, session.run acts = .ok (log, later) := by
  induction acts generalizing session with
  | nil => exact ⟨_, _, rfl⟩
  | cons act rest ih =>
    obtain ⟨now, others⟩ := List.forall_mem_cons.mp traffic
    obtain ⟨quiet, silent⟩ := List.forall_mem_cons.mp unpinged
    obtain ⟨middle, returned, pinged⟩ := act_of_closed closed now quiet
    obtain ⟨log, later, ran⟩ := ih pinged.closed others silent
    exact ⟨_, later, run_cons_eq_ok.mpr ⟨_, middle, log, returned, ran, rfl⟩⟩

/-- Whatever the peer, the application and the upkeep do to a session that is closed, it hands
up nothing and never opens again, nor does it go back once it is disconnected. Datagrams go out
and packets are remembered for the pings that are asked for, and for nothing else. So nothing
goes out and nothing is remembered exactly if no ping is asked for. -/
theorem closed_silent_iff (closed : session.state.isOpen = false) {acts : List Act}
    (traffic : ∀ act ∈ acts, act.isTraffic = true) :
    (∀ log later, session.run acts = .ok (log, later) →
      handedUp log = [] ∧ ∃ pings, pings.map SentPing.now = acts.filterMap Act.pingedAt? ∧
        session.OnlyPinged pings later) ∧
    ((∃ log later, session.run acts = .ok (log, later) ∧ later.outbox = session.outbox ∧
        later.pending = session.pending) ↔
      ∀ now, Act.ping now ∉ acts) := by
  have all {log later} (ran : session.run acts = .ok (log, later)) :=
    onlyPinged_run closed traffic ran
  refine ⟨fun log later => all, ?_, fun unpinged => ?_⟩
  · rintro ⟨log, later, ran, outbox, -⟩ now asked
    obtain ⟨-, pings, askedFor, pinged⟩ := all ran
    have sent := pinged.outbox
    rw [outbox, List.self_eq_append_right, List.map_eq_nil_iff] at sent
    rw [sent, List.map_nil] at askedFor
    have among : now ∈ acts.filterMap Act.pingedAt? := List.mem_filterMap.mpr ⟨_, asked, rfl⟩
    rw [← askedFor] at among
    cases among
  · have quiet : ∀ act ∈ acts, act.pingedAt? = none := by
      intro act present
      cases act with
      | ping now => exact absurd present (unpinged now)
      | _ => rfl
    obtain ⟨log, later, ran⟩ := exists_run_of_unpinged closed traffic quiet
    obtain ⟨-, pings, askedFor, pinged⟩ := all ran
    rw [List.filterMap_eq_nil_iff.mpr quiet, List.map_eq_nil_iff] at askedFor
    subst askedFor
    have outbox := pinged.outbox
    rw [List.map_nil, List.append_nil] at outbox
    exact ⟨log, later, ran, Queue.toList_injective outbox, pinged.pending⟩

/-- A session that was greeted and ended at once. -/
def endedAtOnce : Except Halt Session := do
  let session ← create ⟨1⟩ default {} {} 0
  let session := (session.handlePacket (.hello 1 (.brief default "")) 0).2
  return (session.disconnect none).2

/-- A payload is refused by a session that is over, but a ping goes out. -/
theorem closed_silent_iff_endedAtOnce :
    ∃ session, endedAtOnce = .ok session ∧ session.state.isOpen = false ∧
      (∃ log later, session.run [.send ⟨[]⟩ true 0, .maintain 0] = .ok (log, later) ∧
        later.outbox = session.outbox ∧ later.pending = session.pending) ∧
      ∃ log later, session.run [.ping 0] = .ok (log, later) ∧
        ¬ (later.outbox = session.outbox ∧ later.pending = session.pending) := by
  obtain ⟨session, made⟩ := Halt.exists_of_isSome endedAtOnce (by decide +kernel)
  have stage : endedAtOnce.toOption.map (fun session => session.state.isOpen) = some false := by
    decide +kernel
  rw [made] at stage
  have closed : session.state.isOpen = false := Option.some.inj stage
  obtain ⟨⟨log, later⟩, pinged⟩ := Halt.exists_of_isSome (endedAtOnce >>= (·.run [.ping 0]))
    (by decide +kernel)
  rw [made] at pinged
  refine ⟨session, made, closed, ?_, log, later, pinged, fun silent => ?_⟩
  · exact (closed_silent_iff closed (by decide)).2.mpr (by simp)
  · have unpinged := (closed_silent_iff closed (by decide)).2.mp ⟨log, later, pinged, silent⟩
    exact unpinged 0 (by decide)

end SessionLayer.Session
