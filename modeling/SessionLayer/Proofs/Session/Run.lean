import SessionLayer.Proofs.Session.Cases

/-!
# Runs of a session

Everything that can be done to a session is a `Session.Act`, so that its life is a list of
them. `Session.act` does one act and `Session.run` one after the other; the log of a run
notes for each act what the session handed up, from a packet at once or from a gap that was
given up. `Session.heard_or_kept` says once what acts other than packets from the peer leave
alone.
-/

namespace SessionLayer.Session

/-- Something that is done to a session. -/
inductive Act
  | packet (packet : Packet) (now : Instant)
  | check (trafficClass : TrafficClass) (now : Instant)
  | send (payload : Payload) (reliable : Bool) (now : Instant)
  | ping (now : Instant)
  | maintain (now : Instant)
  | disconnect (farewell : Option Farewell)
  | markDisconnected
  | takeOutgoing
  | setRoom (room : RoomKey)
  | clearRoom
  deriving DecidableEq

/-- An act and what the session handed up. -/
structure Entry where
  act : Act
  handed : List Inbound
  deriving DecidableEq

/-- Does one act, and says what is handed up. -/
def act (session : Session) : Act → Except Halt (List Inbound × Session)
  | .packet packet now => .ok (session.handlePacket packet now)
  | .check trafficClass now => do
    let (_, session) ← session.checkRate trafficClass now
    return ([], session)
  | .send payload reliable now => do
    let (_, session) ← session.send payload reliable now
    return ([], session)
  | .ping now => do
    let (_, session) ← session.sendPing now
    return ([], session)
  | .maintain now => do
    let (upkeep, session) ← session.maintain now
    return (upkeep.released.map (.deliver · true), session)
  | .disconnect farewell => .ok ([], (session.disconnect farewell).2)
  | .markDisconnected => .ok ([], session.markDisconnected.2)
  | .takeOutgoing => .ok ([], session.takeOutgoing.2)
  | .setRoom room => .ok ([], session.setRoom room)
  | .clearRoom => .ok ([], session.clearRoom)

/-- Does one act after the other, and keeps a log. -/
def run (session : Session) : List Act → Except Halt (List Entry × Session)
  | [] => .ok ([], session)
  | act :: rest => do
    let (handed, session) ← session.act act
    let (log, session) ← session.run rest
    return (⟨act, handed⟩ :: log, session)

/-- Everything that was handed up, in order. -/
def handedUp (log : List Entry) : List Inbound := log.flatMap Entry.handed

variable {session finish : Session}

theorem run_cons_eq_ok {act : Act} {rest : List Act} {log : List Entry} :
    session.run (act :: rest) = .ok (log, finish) ↔
      ∃ handed middle later, session.act act = .ok (handed, middle) ∧
        middle.run rest = .ok (later, finish) ∧ log = ⟨act, handed⟩ :: later := by
  simp only [run, Halt.bind_eq_ok, Halt.pure_eq_ok, Prod.exists, Prod.mk.injEq]
  constructor
  · rintro ⟨handed, middle, first, later, last, ran, rfl, rfl⟩
    exact ⟨handed, middle, later, first, ran, rfl⟩
  · rintro ⟨handed, middle, later, first, ran, rfl⟩
    exact ⟨handed, middle, first, later, finish, ran, rfl, rfl⟩

theorem act_send_of_ok {payload : Payload} {reliable : Bool} {now : Instant}
    {answer : Except SessionFault (Option Sequence)}
    (returned : session.send payload reliable now = .ok (answer, finish)) :
    session.act (.send payload reliable now) = .ok ([], finish) := by
  rw [act, returned]
  rfl

theorem run_singleton {act : Act} {handed : List Inbound}
    (returned : session.act act = .ok (handed, finish)) :
    session.run [act] = .ok ([⟨act, handed⟩], finish) :=
  run_cons_eq_ok.mpr ⟨handed, finish, [], returned, rfl, rfl⟩

theorem run_append {before after : List Act} {log more : List Entry} {middle : Session}
    (first : session.run before = .ok (log, middle))
    (second : middle.run after = .ok (more, finish)) :
    session.run (before ++ after) = .ok (log ++ more, finish) := by
  induction before generalizing session log with
  | nil =>
    cases first
    exact second
  | cons act rest ih =>
    obtain ⟨handed, next, later, returned, others, rfl⟩ := run_cons_eq_ok.mp first
    exact run_cons_eq_ok.mpr ⟨handed, next, _, returned, ih others, rfl⟩

/-- Nothing that goes out changes what was received. -/
theorem Sending.history_eq {payload : Payload} {now : Instant} {reliable : Bool}
    {answer : Except SessionFault (Option Sequence)}
    (sending : session.Sending payload now reliable answer finish) :
    finish.history = session.history := by
  cases sending <;> rfl

theorem Looking.history_eq {now : Instant} {upkeep : Upkeep}
    (looking : session.Looking now upkeep finish) : finish.history = session.history := by
  cases looking with
  | keptUp => rw [expireGaps_frame]; rfl
  | _ => rfl

theorem sendPing_frame {now : Instant} {number : Sequence} {next : Session}
    (returned : session.sendPing now = .ok (number, next)) :
    next.history = session.history ∧ next.identity = session.identity ∧
      next.settings = session.settings := by
  rw [(sendPing_eq_ok returned).2]
  exact ⟨rfl, rfl, rfl⟩

/-- An act is a packet from the peer, or what was received and who the client is stay as
they were. -/
theorem heard_or_kept {act : Act} {handed : List Inbound} {next : Session}
    (returned : session.act act = .ok (handed, next)) :
    (∃ packet now, act = .packet packet now ∧ session.handlePacket packet now = (handed, next)) ∨
      (∀ packet now, act ≠ .packet packet now) ∧ next.history = session.history ∧
        next.identity = session.identity ∧ next.settings = session.settings := by
  cases act with
  | packet packet now => exact .inl ⟨packet, now, rfl, Except.ok.inj returned⟩
  | check trafficClass now =>
    simp only [Session.act, Halt.bind_eq_ok, Halt.pure_eq_ok, Prod.exists] at returned
    obtain ⟨decision, checked, returned, same⟩ := returned
    cases same
    rw [(checkRate_eq_ok returned).2]
    exact .inr ⟨by simp, rfl, rfl, rfl⟩
  | send payload reliable now =>
    simp only [Session.act, Halt.bind_eq_ok, Halt.pure_eq_ok, Prod.exists] at returned
    obtain ⟨answer, sent, returned, same⟩ := returned
    cases same
    have sending := sending returned
    exact .inr ⟨by simp, sending.history_eq, sending.identity_eq, sending.samePeer.settings⟩
  | ping now =>
    simp only [Session.act, Halt.bind_eq_ok, Halt.pure_eq_ok, Prod.exists] at returned
    obtain ⟨number, pinged, returned, same⟩ := returned
    cases same
    exact .inr ⟨by simp, sendPing_frame returned⟩
  | maintain now =>
    simp only [Session.act, Halt.bind_eq_ok, Halt.pure_eq_ok, Prod.exists] at returned
    obtain ⟨upkeep, kept, returned, same⟩ := returned
    cases same
    have looking := looking returned
    exact .inr ⟨by simp, looking.history_eq, looking.identity_eq, looking.samePeer.settings⟩
  | disconnect farewell =>
    cases returned
    rw [disconnect_frame]
    exact .inr ⟨by simp, rfl, rfl, rfl⟩
  | markDisconnected | takeOutgoing | setRoom room | clearRoom =>
    cases returned
    exact .inr ⟨by simp, rfl, rfl, rfl⟩

end SessionLayer.Session
