import SessionLayer.Endpoint.Run
import SessionLayer.Proofs.Flood.Penalty
import SessionLayer.Proofs.Session.Cases

/-!
# The steps of an endpoint

What is done to an endpoint is done in steps, each of which concerns one session or
the penalties of one host. `Turn` lists what may become of a session that stays,
`Ending` why one ends, `Telling` what the application hears of a turn, and
`Endpoint.Step` what one step does to the endpoint. `Endpoint.Course` puts steps
together with their reports.
-/

namespace SessionLayer

/-! ## Reports -/

namespace Report

@[simp] theorem empty_append (report : Report) : empty ++ report = report := by
  cases report; rfl

@[simp] theorem append_empty (report : Report) : report ++ empty = report := by
  show Report.append report empty = report
  simp [append, empty]

theorem append_assoc (first second third : Report) :
    first ++ second ++ third = first ++ (second ++ third) := by
  show append (append first second) third = append first (append second third)
  simp [append, List.append_assoc]

@[simp] theorem events_empty : empty.events = [] := rfl

@[simp] theorem events_append (first second : Report) :
    (first ++ second).events = first.events ++ second.events := rfl

end Report

/-! ## Turns and endings of a session -/

/-- The kinds of steps. -/
inductive Deed
  /-- A datagram was held against the limits. -/
  | checked (now : Instant)
  /-- A packet was taken in. -/
  | received (now : Instant)
  /-- A payload was to be sent. -/
  | sent (now : Instant)
  /-- A session was looked after. -/
  | kept (now : Instant)
  /-- A client was put into a room or taken out of it. -/
  | seated
  /-- A session ended. -/
  | ended
  /-- The penalties of a host changed. -/
  | judged
  /-- A banned host was told so. -/
  | noticed
  /-- Something changed that is no session. -/
  | aside

/-- What may become of the session of `remote` that stays: with the deed, the events
it raises and the datagrams that go out. -/
inductive Turn (remote : Address) : Deed → Session → List Event → List Bytes → Session → Prop
  | checked {session next : Session} {trafficClass : TrafficClass} {now : Instant}
      {decision : RateDecision} :
    session.checkRate trafficClass now = .ok (decision, next) →
    Turn remote (.checked now) session [] [] next
  | received {session : Session} (packet : Packet) (now : Instant) :
    Endpoint.peerFarewell? (session.handlePacket packet now).1 = none →
    Turn remote (.received now) session
      ((session.handlePacket packet now).1.filterMap
        (Endpoint.eventOf? remote (session.handlePacket packet now).2))
      (session.handlePacket packet now).2.takeOutgoing.1
      (session.handlePacket packet now).2.takeOutgoing.2
  | sent {session next : Session} {payload : Payload} {reliable : Bool} {now : Instant}
      {number : Option Sequence} :
    session.send payload reliable now = .ok (.ok number, next) →
    Turn remote (.sent now) session [] next.takeOutgoing.1 next.takeOutgoing.2
  | refused {session next : Session} {payload : Payload} {reliable : Bool} {now : Instant}
      {fault : SessionFault} :
    session.send payload reliable now = .ok (.error fault, next) →
    Turn remote (.sent now) session [] [] next
  | kept {session next : Session} {now : Instant} {upkeep : Upkeep} :
    session.maintain now = .ok (upkeep, next) → upkeep.health = .alive →
    Turn remote (.kept now) session (upkeep.released.map (Event.message next.client · true))
      next.takeOutgoing.1 next.takeOutgoing.2
  | seated {session : Session} (room : RoomKey) :
    Turn remote .seated session [] [] (session.setRoom room)
  | unseated {session : Session} : Turn remote .seated session [] [] session.clearRoom

/-- Why a session ends, and how it is left. -/
inductive Ending (session : Session) : DisconnectCause → Session → Prop
  | left (packet : Packet) (now : Instant) {farewell : Option Farewell} :
    Endpoint.peerFarewell? (session.handlePacket packet now).1 = some farewell →
    Ending session (.byPeer farewell) (session.handlePacket packet now).2
  | rateLimited (farewell : Farewell) :
    Ending session (.rateLimited farewell) (session.disconnect (some farewell)).2
  | banned (farewell : Farewell) :
    Ending session (.banned farewell) (session.disconnect (some farewell)).2
  | byServer (farewell : Farewell) :
    Ending session (.byServer farewell) (session.disconnect (some farewell)).2
  | unresponsive {now : Instant} :
    session.isUnresponsive now = true →
    Ending session .timeout (session.disconnect (some (.plain .none))).2
  | idle {now : Instant} :
    session.isIdentified = false → session.isIdle now = true → Ending session .timeout session

theorem Turn.samePeer {remote : Address} {deed : Deed} {session next : Session}
    {events : List Event} {sent : List Bytes}
    (h : Turn remote deed session events sent next) : session.SamePeer next := by
  cases h with
  | checked checked => exact Session.samePeer_checkRate checked
  | received packet now _ => exact (session.samePeer_handlePacket packet now).takeOutgoing
  | sent returned => exact (Session.sending returned).samePeer.takeOutgoing
  | refused returned => exact (Session.sending returned).samePeer
  | kept returned _ => exact (Session.looking returned).samePeer.takeOutgoing
  | seated room => exact ⟨rfl, rfl, rfl⟩
  | unseated => exact ⟨rfl, rfl, rfl⟩

theorem Ending.samePeer {session next : Session} {cause : DisconnectCause}
    (h : Ending session cause next) : session.SamePeer next := by
  cases h with
  | left packet now _ => exact session.samePeer_handlePacket packet now
  | idle _ _ => exact .refl session
  | _ => exact session.samePeer_disconnect _

theorem Endpoint.peerFarewell?_delivered (payloads : List Payload) (reliable : Bool) :
    peerFarewell? (payloads.map (Inbound.deliver · reliable)) = none := by
  induction payloads with
  | nil => rfl
  | cons payload rest ih => exact ih

/-- A packet with which the peer leaves hands up nothing else. -/
theorem Session.Hearing.of_peerFarewell? {session next : Session} {inbound : List Inbound}
    {farewell : Option Farewell} (h : session.Hearing inbound next)
    (left : Endpoint.peerFarewell? inbound = some farewell) :
    inbound = [.peerLeft farewell] ∧ next.identity = session.identity := by
  cases h with
  | silent _ => simp [Endpoint.peerFarewell?] at left
  | identified _ _ => simp [Endpoint.peerFarewell?] at left
  | delivered _ _ => simp [Endpoint.peerFarewell?_delivered] at left
  | left kept =>
    simp only [Endpoint.peerFarewell?, List.findSome?_cons, Option.some.injEq] at left
    exact ⟨by rw [left], kept⟩

theorem Ending.identity_eq {session next : Session} {cause : DisconnectCause}
    (h : Ending session cause next) : next.identity = session.identity := by
  cases h with
  | left packet now left => exact ((session.hearing packet now).of_peerFarewell? left).2
  | idle _ _ => rfl
  | _ => rw [Session.disconnect_frame]

/-! ## What a session tells -/

/-- Messages, each a payload and whether it came reliably. -/
def messagesOf (client : ClientId) (bodies : List (Payload × Bool)) : List Event :=
  bodies.map fun body => .message client body.1 body.2

/-- What a turn of a session tells, and what becomes of its identity. -/
inductive Telling (remote : Address) (session next : Session) : List Event → Prop
  | nothing : next.isIdentified = session.isIdentified → Telling remote session next []
  | identified (identity : ClientIdentity) :
    session.isIdentified = false → next.isIdentified = true →
    Telling remote session next [.identified session.client remote identity]
  | messages (bodies : List (Payload × Bool)) :
    session.isIdentified = true → next.isIdentified = true →
    Telling remote session next (messagesOf session.client bodies)

theorem filterMap_delivered (remote : Address) (session : Session) (payloads : List Payload)
    (reliable : Bool) :
    (payloads.map (Inbound.deliver · reliable)).filterMap (Endpoint.eventOf? remote session) =
      messagesOf session.client (payloads.map (·, reliable)) := by
  induction payloads with
  | nil => rfl
  | cons payload rest ih =>
    simp only [List.map_cons, List.filterMap_cons, Endpoint.eventOf?, messagesOf] at ih ⊢
    rw [ih]

theorem Turn.telling {remote : Address} {deed : Deed} {session next : Session}
    {events : List Event} {sent : List Bytes}
    (h : Turn remote deed session events sent next) : Telling remote session next events := by
  cases h with
  | checked checked =>
    rw [(Session.checkRate_eq_ok checked).2]
    exact .nothing rfl
  | received packet now stays =>
    have client := (session.samePeer_handlePacket packet now).client
    have heard := session.hearing packet now
    generalize (session.handlePacket packet now).1 = inbound at heard stays
    generalize (session.handlePacket packet now).2 = next at client heard
    cases heard with
    | silent kept => exact .nothing (Session.isIdentified_of_identity_eq kept)
    | @identified _ identity unknown known =>
      simp only [List.filterMap_cons, Endpoint.eventOf?, known, Option.map_some, client,
        List.filterMap_nil]
      exact .identified identity (by simp [Session.isIdentified, unknown])
        (by simp [Session.isIdentified, Session.takeOutgoing, known])
    | @delivered _ payloads reliable known kept =>
      rw [filterMap_delivered, client]
      exact .messages _ known ((Session.isIdentified_of_identity_eq kept).trans known)
    | left => simp [Endpoint.peerFarewell?] at stays
  | sent returned =>
    have kept := (Session.sending returned).identity_eq
    exact .nothing (Session.isIdentified_of_identity_eq kept)
  | refused returned =>
    have kept := (Session.sending returned).identity_eq
    exact .nothing (Session.isIdentified_of_identity_eq kept)
  | @kept _ next _ upkeep returned _ =>
    have looked := Session.looking returned
    have kept := Session.isIdentified_of_identity_eq looked.identity_eq
    cases known : session.isIdentified with
    | false =>
      rw [looked.released_eq_nil (.inl known)]
      exact .nothing kept
    | true =>
      have told : upkeep.released.map (Event.message next.client · true) =
          messagesOf session.client (upkeep.released.map (·, true)) := by
        simp [messagesOf, looked.samePeer.client]
      rw [told]
      exact .messages _ known (kept.trans known)
  | seated room => exact .nothing rfl
  | unseated => exact .nothing rfl

/-- A turn tells of no other client. -/
theorem Turn.client_eq {remote : Address} {deed : Deed} {session next : Session}
    {events : List Event} {sent : List Bytes} (h : Turn remote deed session events sent next) :
    ∀ event ∈ events, event.client = session.client := by
  intro event told
  cases h.telling with
  | nothing _ => cases told
  | identified identity _ _ => rw [List.mem_singleton.mp told, Event.client]
  | messages bodies _ _ =>
    obtain ⟨body, _, rfl⟩ := List.mem_map.mp told
    rfl

/-! ## Steps of an endpoint -/

namespace Endpoint

/-- What is told when a session is taken out. -/
theorem events_farewellReport (rooms : RoomTable) (remote : Address) (session : Session)
    (cause : DisconnectCause) :
    (farewellReport rooms remote session cause).events =
      if session.isIdentified then [.disconnected session.client remote cause] else [] := rfl

theorem client_of_farewellReport (rooms : RoomTable) (remote : Address) (session : Session)
    (cause : DisconnectCause) :
    (∀ event ∈ (farewellReport rooms remote session cause).events,
        event.client = session.client) ∧
      ∀ detachment ∈ (farewellReport rooms remote session cause).detached,
        detachment.client = session.client := by
  constructor
  · intro event told
    rw [events_farewellReport] at told
    split at told
    · rw [List.mem_singleton.mp told, Event.client]
    · cases told
  · intro detachment told
    obtain ⟨room, _, rfl⟩ := List.mem_map.mp told
    rfl

/-- Takes out a session of a peer, in its last state, with its last datagrams. -/
def release (endpoint : Endpoint) (remote : Address) (session : Session) : Endpoint :=
  { endpoint with
    roster :=
      { endpoint.roster with
        sessions := endpoint.roster.sessions.erase remote
        clients := endpoint.roster.clients.erase session.client } }.enqueue remote
    session.takeOutgoing.1

/-- One step, with the host that it concerns and its kind. -/
inductive Step : Host → Deed → Endpoint → Report → Endpoint → Prop
  | turned {endpoint : Endpoint} {remote : Address} {deed : Deed} {session next : Session}
      {events : List Event} {sent : List Bytes} :
    endpoint.roster.get? remote = some session → Turn remote deed session events sent next →
    Step remote.host deed endpoint (.ofEvents events)
      ((endpoint.put remote next).enqueue remote sent)
  | ended {endpoint : Endpoint} {remote : Address} {session next : Session}
      {cause : DisconnectCause} :
    endpoint.roster.get? remote = some session → Ending session cause next →
    Step remote.host .ended endpoint (farewellReport endpoint.rooms remote next cause)
      (endpoint.release remote next)
  | judged {endpoint : Endpoint} {host : Host} {book : PenaltyBook} :
    endpoint.penalties.SameBut host book →
    Step host .judged endpoint .empty { endpoint with penalties := book }
  | noticed {endpoint : Endpoint} (remote : Address) (notice : Bytes) :
    Step remote.host .noticed endpoint .empty (endpoint.enqueue remote [notice])
  | aside {endpoint : Endpoint} (host : Host) (book : PenaltyBook)
      (queue : Queue (Address × Bytes)) (rooms : RoomTable) :
    Step host .aside endpoint .empty
      { endpoint with penalties := book, outgoing := queue, rooms := rooms }

/-- Steps one after the other, each of an allowed kind at an allowed host. -/
inductive Course (allowed : Host → Deed → Prop) : Endpoint → Report → Endpoint → Prop
  | stay (endpoint : Endpoint) : Course allowed endpoint .empty endpoint
  | step {start middle finish : Endpoint} {host : Host} {deed : Deed} {first rest : Report} :
    Step host deed start first middle → allowed host deed → Course allowed middle rest finish →
    Course allowed start (first ++ rest) finish

variable {allowed : Host → Deed → Prop}

theorem Course.single {start finish : Endpoint} {host : Host} {deed : Deed} {report : Report}
    (step : Step host deed start report finish) (h : allowed host deed) :
    Course allowed start report finish := by
  have course := Course.step step h (.stay finish)
  rwa [Report.append_empty] at course

theorem Course.trans {start middle finish : Endpoint} {first second : Report}
    (left : Course allowed start first middle) (right : Course allowed middle second finish) :
    Course allowed start (first ++ second) finish := by
  induction left with
  | stay => rwa [Report.empty_append]
  | step one h _ ih =>
    rw [Report.append_assoc]
    exact .step one h (ih right)

end Endpoint

end SessionLayer
