import Mathlib.Data.List.Basic
import SessionLayer.Proofs.Endpoint.Annals
import SessionLayer.Proofs.Endpoint.Outbox
import SessionLayer.Proofs.Endpoint.Stored

/-!
# What happens in an operation

`Endpoint.Scene` ties incidents to what is done to the endpoint when they happen, and to what
is reported of it, and `Endpoint.Story` puts scenes one after the other. The main statement,
`Endpoint.story_of_apply`, is that every operation that returns goes through the scenes of
its `Endpoint.incidents`: what a session queues is fetched in the same scene, and a session
that ends is taken out and reported with the cause that the incident has.
-/

namespace SessionLayer

namespace Session

variable {session next : Session}

theorem Queues.queuing_eq {datagrams : List Bytes} (queues : session.Queues datagrams next) :
    session.queuing next = datagrams.map (.queued session.remote) := by
  rw [queuing, queues, List.drop_left]

/-- A payload that is sent is all that the session queues. -/
theorem posting_of_sent {payload : Payload} {reliable : Bool} {now : Instant}
    {number : Option Sequence} (sent : session.send payload reliable now = .ok (.ok number, next)) :
    session.posting payload reliable now = session.queuing next := by
  have alone {datagram : Bytes} (written : payload.datagram number = .ok datagram)
      (queues : session.Queues [datagram] next) :
      session.posting payload reliable now = session.queuing next := by
    rw [posting, sent, queues.queuing_eq]
    simp [written, Except.toOption]
  cases sending sent with
  | posted _ written => exact alone written (Queue.toList_push _ _)
  | tracked _ _ written => exact alone written (Queue.toList_push _ _)

/-- A packet with which the peer does not leave is no farewell, or comes too late. -/
theorem reception_of_stays {packet : Packet} {now : Instant}
    (stays : Endpoint.peerFarewell? (session.handlePacket packet now).1 = none) :
    session.reception packet now = session.queuing (session.handlePacket packet now).2 := by
  unfold reception
  simp only
  split
  · rename_i farewell isOpen
    simp [handlePacket, isOpen, onPacket, Endpoint.peerFarewell?] at stays
  · rfl

theorem reception_of_leaves {packet : Packet} {now : Instant} {farewell : Option Farewell}
    (leaves : Endpoint.peerFarewell? (session.handlePacket packet now).1 = some farewell) :
    session.reception packet now =
      session.parting (session.handlePacket packet now).2 (.byPeer farewell) := by
  have alone := ((session.hearing packet now).of_peerFarewell? leaves).1
  cases isOpen : session.state.isOpen with
  | false => simp [handlePacket, isOpen] at alone
  | true =>
    have said : packet = .disconnect farewell := by
      rw [handlePacket, if_pos isOpen] at alone
      exact eq_disconnect_of_peerLeft (alone ▸ List.mem_singleton_self _)
    simp only [reception, said, isOpen]

end Session

namespace Endpoint

/-- One thing that an endpoint does, with its incidents and its report. -/
inductive Scene (start : Endpoint) : List Incident → Report → Endpoint → Prop
  | made {remote : Address} {session : Session} {now : Instant} :
    start.roster.get? remote = none →
    Session.create start.roster.nextClient remote start.roster.settings start.roster.flood now =
      .ok session →
    Scene start [.made remote] .empty (start.enrol remote session)
  /-- The datagrams of a session are fetched. -/
  | posted {remote : Address} {session next : Session} {events : List Event} :
    start.roster.get? remote = some session → session.Does next →
    (∀ event ∈ events, event.isParting = false) →
    Scene start (session.queuing next) (.ofEvents events) ((start.put remote next).flush remote)
  /-- A session that queues nothing is only stored again. -/
  | rested {remote : Address} {session next : Session} :
    start.roster.get? remote = some session → session.Does next →
    next.outbox = session.outbox → Scene start [] .empty (start.put remote next)
  | ended {remote : Address} {session next : Session} {cause : DisconnectCause} :
    start.roster.get? remote = some session → Ending session cause next →
    Scene start (session.parting next cause) (farewellReport start.rooms remote next cause)
      (start.release remote next)
  | noticed (remote : Address) (notice : Bytes) :
    Scene start [.noticed remote notice] .empty (start.enqueue remote [notice])
  | aside (book : PenaltyBook) (rooms : RoomTable) :
    Scene start [] .empty { start with penalties := book, rooms }

/-- Scenes one after the other. -/
inductive Story : Endpoint → List Incident → Report → Endpoint → Prop
  | stay (endpoint : Endpoint) : Story endpoint [] .empty endpoint
  | step {start middle finish : Endpoint} {first rest : List Incident} {told more : Report} :
    Scene start first told middle → Story middle rest more finish →
    Story start (first ++ rest) (told ++ more) finish

variable {start middle finish : Endpoint} {remote : Address} {session next : Session}
  {report : Report} {bytes : Bytes} {now : Instant}

theorem Story.single {incidents : List Incident} (scene : Scene start incidents report finish) :
    Story start incidents report finish := by
  have story := Story.step scene (.stay finish)
  rwa [List.append_nil, Report.append_empty] at story

theorem Story.trans {first second : List Incident} {told more : Report}
    (left : Story start first told middle) (right : Story middle second more finish) :
    Story start (first ++ second) (told ++ more) finish := by
  induction left with
  | stay => rwa [List.nil_append, Report.empty_append]
  | step scene _ ih =>
    rw [List.append_assoc, Report.append_assoc]
    exact .step scene (ih right)

/-- Something that is no incident comes first. -/
theorem Story.after {incidents : List Incident} (quiet : Scene start [] .empty middle)
    (story : Story middle incidents report finish) : Story start incidents report finish := by
  have whole := Story.step quiet story
  rwa [List.nil_append, Report.empty_append] at whole

/-- Something that is no incident comes last. -/
theorem Story.before {incidents : List Incident} (story : Story start incidents report middle)
    (quiet : Scene middle [] .empty finish) : Story start incidents report finish := by
  have whole := story.trans (.single quiet)
  rwa [List.append_nil, Report.append_empty] at whole

/-! ## Sessions that are sent away -/

theorem story_close {farewell : Farewell} {cause : Farewell → DisconnectCause}
    (ends : ∀ session : Session,
      Ending session (cause farewell) (session.disconnect (some farewell)).2)
    (endpoint : Endpoint) (remote : Address) :
    Story endpoint (endpoint.dismissalAt remote farewell cause)
      (endpoint.close remote farewell cause).1 (endpoint.close remote farewell cause).2 := by
  unfold dismissalAt
  cases stored : endpoint.roster.get? remote with
  | none =>
    rw [close_of_none stored]
    exact .stay endpoint
  | some session =>
    rw [close_of_get? stored]
    exact .single (.ended stored (ends session))

/-- Sessions are visited one after the other, and what happens at one address does not depend
on the others. -/
theorem story_atEach (operation : Endpoint → Address → Report × Endpoint)
    (incidents : Endpoint → Address → List Incident) {order : List Address}
    (each : ∀ endpoint remote, Story endpoint (incidents endpoint remote)
      (operation endpoint remote).1 (operation endpoint remote).2)
    (others : ∀ endpoint remote other, other ≠ remote →
      incidents (operation endpoint remote).2 other = incidents endpoint other)
    (distinct : order.Nodup) (endpoint : Endpoint) :
    Story endpoint (order.flatMap (incidents endpoint)) (endpoint.atEach order operation).1
      (endpoint.atEach order operation).2 := by
  induction order generalizing endpoint with
  | nil => exact .stay endpoint
  | cons remote rest ih =>
    obtain ⟨once, distinct⟩ := List.nodup_cons.mp distinct
    have same : ∀ other ∈ rest,
        incidents (operation endpoint remote).2 other = incidents endpoint other := by
      intro other later
      refine others endpoint remote other ?_
      rintro rfl
      exact once later
    rw [atEach_cons, List.flatMap_cons, ← List.flatMap_congr same]
    exact (each endpoint remote).trans (ih distinct _)

theorem get?_close_of_ne (endpoint : Endpoint) {remote other : Address}
    (elsewhere : other ≠ remote) (farewell : Farewell) (cause : Farewell → DisconnectCause) :
    (endpoint.close remote farewell cause).2.roster.get? other =
      endpoint.roster.get? other := by
  cases stored : endpoint.roster.get? remote with
  | none => rw [close_of_none stored]
  | some session => rw [close_of_get? stored, get?_release, if_neg elsewhere]

theorem settings_close (endpoint : Endpoint) (remote : Address) (farewell : Farewell)
    (cause : Farewell → DisconnectCause) :
    (endpoint.close remote farewell cause).2.settings = endpoint.settings := by
  cases stored : endpoint.roster.get? remote with
  | none => rw [close_of_none stored]
  | some session => rw [close_of_get? stored]; rfl

theorem story_disconnectBanned (endpoint : Endpoint) (host : Host) (duration : Span) :
    Story endpoint (endpoint.banishment host duration)
      (endpoint.disconnectBanned host duration).1 (endpoint.disconnectBanned host duration).2 := by
  refine story_atEach (closeBanned duration)
    (fun endpoint remote =>
      endpoint.dismissalAt remote (endpoint.banFarewell duration remote) .banned)
    (fun endpoint remote => story_close (fun _ => .banned _) endpoint remote)
    (fun endpoint remote other elsewhere => ?_) (endpoint.roster.sessions.nodup_keys.filter _)
    endpoint
  have stored := endpoint.get?_close_of_ne elsewhere (endpoint.banFarewell duration remote) .banned
  have settings := endpoint.settings_close remote (endpoint.banFarewell duration remote) .banned
  simp only [closeBanned, banFarewell, localizedFarewell, dismissalAt] at stored settings ⊢
  rw [stored, settings]

theorem story_shutdown (endpoint : Endpoint) :
    Story endpoint (endpoint.incidents .shutdown) endpoint.shutdown.1 endpoint.shutdown.2 :=
  story_atEach closeForShutdown
    (fun endpoint remote => endpoint.dismissalAt remote (.plain .serverRequest) .byServer)
    (fun endpoint remote => story_close (fun _ => .byServer _) endpoint remote)
    (fun endpoint _ _ elsewhere => by
      rw [dismissalAt, closeForShutdown, get?_close_of_ne endpoint elsewhere, dismissalAt])
    endpoint.roster.sessions.nodup_keys endpoint

theorem story_ban {host : Host} {duration : Span}
    (h : start.ban host duration now = .ok (report, finish)) :
    Story start (start.banishment host duration) report finish := by
  simp only [ban, Halt.bind_eq_ok, Halt.pure_eq_ok] at h
  obtain ⟨book, -, closed⟩ := h
  have story := story_disconnectBanned { start with penalties := book } host duration
  rw [closed] at story
  exact .after (.aside book start.rooms) story

theorem story_disconnect (start : Endpoint) (client : ClientId) (farewell : Farewell) :
    Story start (start.incidents (.disconnect client farewell))
      (Outcome.ofResult (start.disconnect client farewell).1).report
      (start.disconnect client farewell).2 := by
  simp only [incidents, dismissalOf, disconnect]
  cases start.roster.addressOf? client with
  | none => exact .stay start
  | some remote => exact story_close (fun _ => .byServer _) start remote

theorem story_disconnectLocalized (start : Endpoint) (client : ClientId)
    (reason : DisconnectReason) (text : LocalizedText) (args : List String) :
    Story start (start.incidents (.disconnectLocalized client reason text args))
      (Outcome.ofResult (start.disconnectLocalized client reason text args).1).report
      (start.disconnectLocalized client reason text args).2 := by
  simp only [incidents, dismissalOf, disconnectLocalized]
  cases start.roster.addressOf? client with
  | none => exact .stay start
  | some remote => exact story_close (fun _ => .byServer _) start remote

/-! ## Datagrams -/

theorem isParting_of_eventOf? {inbound : Inbound} {event : Event}
    (told : eventOf? remote session inbound = some event) : event.isParting = false := by
  cases inbound with
  | identified =>
    obtain ⟨identity, -, rfl⟩ := Option.map_eq_some_iff.mp told
    rfl
  | deliver payload reliable =>
    cases told
    rfl
  | peerLeft farewell => cases told

theorem story_dispatch (stored : start.roster.get? remote = some session) (packet : Packet)
    (now : Instant) :
    Story start (session.reception packet now) (start.dispatch remote session packet now).1
      (start.dispatch remote session packet now).2 := by
  cases left : peerFarewell? (session.handlePacket packet now).1 with
  | none =>
    rw [dispatch_of_stays left, ← flush_put, Session.reception_of_stays left]
    refine .single (.posted stored (.heard packet now left) fun event told => ?_)
    obtain ⟨inbound, -, same⟩ := List.mem_filterMap.mp told
    exact isParting_of_eventOf? same
  | some farewell =>
    rw [dispatch_of_leaves left, Session.reception_of_leaves left]
    exact .single (.ended stored (.left packet now left))

theorem story_penalize (h : start.penalize remote now = .ok (report, finish)) :
    Story start (start.punishment remote now) report finish := by
  simp only [penalize, Halt.bind_eq_ok] at h
  obtain ⟨⟨verdict, book⟩, recorded, h⟩ := h
  have noted : Scene start [] .empty { start with penalties := book } := .aside book start.rooms
  rw [punishment, recorded]
  cases verdict with
  | disconnect =>
    have ends (farewell : Farewell) (session : Session) :
        Ending session (.rateLimited farewell) (session.disconnect (some farewell)).2 :=
      .rateLimited farewell
    have closed := story_close (ends ({ start with penalties := book }.localizedFarewell remote
      .custom start.settings.penalty.disconnectMessage [])) { start with penalties := book } remote
    rw [Halt.pure_eq_ok.mp h] at closed
    exact .after noted closed
  | ban duration =>
    have closed := story_disconnectBanned { start with penalties := book } remote.host duration
    rw [Halt.pure_eq_ok.mp h] at closed
    exact .after noted closed

theorem story_handleKnown {kind : PacketKind} (stored : start.roster.get? remote = some session)
    (h : start.handleKnown remote kind bytes now = .ok (report, finish)) :
    Story start (start.admission remote session kind bytes now) report finish := by
  simp only [handleKnown, Roster.lookupOrCreate, stored, Halt.bind_eq_ok] at h
  obtain ⟨_, known, ⟨decision, checked⟩, returned, h⟩ := h
  cases known
  simp only at returned h
  have first : Scene start [] .empty (start.put remote checked) :=
    .rested stored (.checked returned) (by rw [(Session.checkRate_eq_ok returned).2])
  rw [admission, returned]
  cases decision with
  | drop warnings =>
    cases h
    exact .single first
  | penalize => exact .after first (story_penalize h)
  | accept =>
    simp only at h ⊢
    cases decoded : Packet.decode bytes with
    | error fault =>
      rw [decoded] at h
      cases h
      exact .single first
    | ok packet =>
      rw [decoded] at h
      have taken := story_dispatch (get?_put_self start remote checked) packet now
      rw [Halt.pure_eq_ok.mp h] at taken
      exact .after first taken

theorem story_rejectBanned (endpoint : Endpoint) (remote : Address) (bytes : Bytes)
    (remaining : Span) :
    Story endpoint
      ((Packet.disconnect (some (endpoint.banNotice (helloLocale? bytes) remaining))).encode
        |>.toOption.toList.map (.noticed remote))
      .empty (endpoint.rejectBanned remote bytes remaining) := by
  simp only [rejectBanned]
  cases (Packet.disconnect (some (endpoint.banNotice (helloLocale? bytes) remaining))).encode with
  | ok notice => exact .single (.noticed remote notice)
  | error fault => exact .stay endpoint

/-- Nothing but a greeting is answered. -/
theorem refusal_of_ne (other : PacketKind.peek bytes ≠ .ok .hello) (endpoint : Endpoint)
    (remote : Address) (remaining : Span) (now : Instant) :
    endpoint.refusal remote bytes remaining now = [] ∧
      endpoint.onBanned remote bytes remaining now = endpoint := by
  unfold refusal onBanned
  split <;> simp_all

theorem story_onBanned (endpoint : Endpoint) (remote : Address) (bytes : Bytes)
    (remaining : Span) (now : Instant) :
    Story endpoint (endpoint.refusal remote bytes remaining now) .empty
      (endpoint.onBanned remote bytes remaining now) := by
  by_cases greets : PacketKind.peek bytes = .ok .hello
  · simp only [refusal, onBanned, greets]
    have noted : Scene endpoint [] .empty { endpoint with
        penalties := (endpoint.penalties.grantNotice remote.host now).2 } :=
      .aside _ endpoint.rooms
    split
    · exact .after noted (story_rejectBanned _ remote bytes remaining)
    · exact .single noted
  · obtain ⟨silent, same⟩ := refusal_of_ne greets endpoint remote remaining now
    rw [silent, same]
    exact .stay endpoint

theorem story_handleDatagram (h : start.handleDatagram remote bytes now = .ok (report, finish)) :
    Story start (start.arrival remote bytes now) report finish := by
  unfold handleDatagram at h
  unfold arrival
  split at h
  · rename_i large
    cases h
    rw [if_pos large]
    exact .stay _
  rename_i fits
  rw [if_neg fits]
  split at h
  · rename_i remaining banned
    cases h
    rw [banned]
    exact story_onBanned start remote bytes remaining now
  rename_i allowed
  rw [allowed]
  split at h
  · rename_i fault unknown
    cases h
    rw [unknown]
    exact .stay _
  rename_i kind peeked
  rw [peeked]
  simp only
  cases stored : start.roster.get? remote with
  | some session => exact story_handleKnown stored h
  | none =>
    rw [handleKnown_of_none stored, Halt.bind_eq_ok] at h
    obtain ⟨session, made, h⟩ := h
    rw [made]
    have later : Story (start.enrol remote session) _ report finish :=
      story_handleKnown (Table.get?_insert_self _ _ _) h
    have whole := Story.step (.made stored made) later
    rwa [Report.empty_append] at whole

/-! ## Sweeps -/

theorem story_sweepAt (h : start.sweepAt remote now = .ok (report, finish)) :
    Story start (start.tendingAt now remote) report finish := by
  cases stored : start.roster.get? remote with
  | none =>
    rw [sweepAt, stored] at h
    rw [tendingAt, stored]
    cases h
    exact .stay _
  | some session =>
    simp only [sweepAt, stored, Halt.bind_eq_ok] at h
    obtain ⟨⟨upkeep, next⟩, returned, h⟩ := h
    simp only [tendingAt, stored, Session.tending, returned]
    have stays (alive : upkeep.health = .alive) (same : (Report.ofEvents
        (upkeep.released.map (Event.message next.client · true)),
        (start.put remote next).flush remote) = (report, finish)) :
        Story start (session.queuing next) report finish := by
      cases same
      refine .single (.posted stored (.kept returned alive) fun event told => ?_)
      obtain ⟨payload, -, rfl⟩ := List.mem_map.mp told
      rfl
    cases Session.looking returned with
    | shut _ | waiting _ _ _ | keptUp _ _ _ _ _ => exact stays rfl (Halt.pure_eq_ok.mp h)
    | unresponsive _ _ stalled =>
      simp only [Upkeep.only, Halt.pure_eq_ok, teardown_of_get? (get?_put_self _ _ _), release_put,
        List.map_nil] at h
      cases h
      exact .single (.ended stored (.unresponsive stalled))
    | idle _ unknown silent =>
      simp only [Upkeep.only, Halt.pure_eq_ok, teardown_of_get? (get?_put_self _ _ _), release_put,
        List.map_nil] at h
      cases h
      exact .single (.ended stored (.idle unknown silent))

theorem get?_sweepAt_of_ne (h : start.sweepAt remote now = .ok (report, finish))
    {other : Address} (elsewhere : other ≠ remote) :
    finish.roster.get? other = start.roster.get? other := by
  cases swept_of_sweepAt h with
  | absent _ => rfl
  | kept _ _ _ => exact (get?_put _ _ _ _).trans (if_neg elsewhere)
  | unresponsive _ _ | idle _ _ _ => exact (get?_release _ _ _ _).trans (if_neg elsewhere)

theorem story_sweepAll {order : List Address} (distinct : order.Nodup)
    (h : sweepAll now order start = .ok (report, finish)) :
    Story start (order.flatMap (start.tendingAt now)) report finish := by
  induction order generalizing start report with
  | nil =>
    cases h
    exact .stay _
  | cons remote rest ih =>
    obtain ⟨once, distinct⟩ := List.nodup_cons.mp distinct
    simp only [sweepAll, Halt.bind_eq_ok, Halt.pure_eq_ok] at h
    obtain ⟨⟨first, middle⟩, one, ⟨more, last⟩, others, h⟩ := h
    cases h
    have same : ∀ other ∈ rest, middle.tendingAt now other = start.tendingAt now other := by
      intro other later
      have elsewhere : other ≠ remote := by
        rintro rfl
        exact once later
      rw [tendingAt, get?_sweepAt_of_ne one elsewhere, tendingAt]
    rw [List.flatMap_cons, ← List.flatMap_congr same]
    exact (story_sweepAt one).trans (ih distinct others)

theorem story_sweep (h : start.sweep now = .ok (report, finish)) :
    Story start (start.incidents (.sweep now)) report finish := by
  obtain ⟨swept, visited, rfl⟩ := sweep_eq_ok.mp h
  exact (story_sweepAll start.roster.sessions.nodup_keys visited).before (.aside _ swept.rooms)

/-! ## Commands -/

theorem story_send {client : ClientId} {payload : Payload} {reliable : Bool}
    {answer : Except SessionFault (Option Sequence)}
    (h : start.send client payload reliable now = .ok (answer, finish)) :
    Story start (start.incidents (.send client payload reliable now)) .empty finish := by
  unfold incidents
  unfold send at h
  split at h
  · rename_i absent
    cases h
    simp only [absent]
    exact .stay _
  rename_i remote session found
  obtain ⟨-, stored⟩ := eq_of_find? found
  simp only [Halt.bind_eq_ok] at h
  obtain ⟨⟨reply, next⟩, returned, h⟩ := h
  simp only [found]
  cases reply with
  | ok number =>
    cases Halt.pure_eq_ok.mp h
    rw [Session.posting_of_sent returned]
    exact .single (.posted stored (.sent returned) fun _ told => absurd told List.not_mem_nil)
  | error fault =>
    cases Halt.pure_eq_ok.mp h
    have outbox : next.outbox = session.outbox := by cases Session.sending returned <;> rfl
    rw [Session.posting, returned]
    exact .single (.rested stored (.sent returned) outbox)

theorem story_attachRoom (endpoint : Endpoint) (client : ClientId) (room : RoomKey) :
    Story endpoint [] .empty (endpoint.attachRoom client room).2 := by
  unfold attachRoom
  split
  · exact .stay endpoint
  rename_i remote session found
  split
  · exact .single (.rested (eq_of_find? found).2 (.seated room) rfl)
  · exact .stay endpoint

theorem story_detachRoom (endpoint : Endpoint) (client : ClientId) :
    Story endpoint [] .empty (endpoint.detachRoom client).2 := by
  unfold detachRoom
  split
  · exact .stay endpoint
  · rename_i remote session found
    exact .single (.rested (eq_of_find? found).2 .unseated rfl)

/-! ## Operations -/

/-- Every operation that returns goes through its incidents; only the datagrams that it hands
out are no part of them. -/
theorem story_of_apply {operation : Operation} {outcome : Outcome} (other : operation ≠ .drain)
    (h : start.apply operation = .ok (outcome, finish)) :
    Story start (start.incidents operation) outcome.report finish := by
  cases operation with
  | datagram remote bytes now =>
    obtain ⟨_, handled, h⟩ := Halt.bind_eq_ok.mp h
    cases h
    exact story_handleDatagram handled
  | send client payload reliable now =>
    obtain ⟨_, returned, h⟩ := Halt.bind_eq_ok.mp h
    cases h
    rw [report_ofSent]
    exact story_send returned
  | disconnect client farewell =>
    cases h
    exact story_disconnect start client farewell
  | disconnectLocalized client reason text args =>
    cases h
    exact story_disconnectLocalized start client reason text args
  | attachRoom client room =>
    cases h
    rw [report_ofUnit]
    exact story_attachRoom start client room
  | detachRoom client =>
    cases h
    rw [report_ofUnit]
    exact story_detachRoom start client
  | ban host duration now =>
    obtain ⟨_, returned, h⟩ := Halt.bind_eq_ok.mp h
    cases h
    exact story_ban returned
  | unban host =>
    cases h
    exact .single (.aside _ start.rooms)
  | sweep now =>
    obtain ⟨_, returned, h⟩ := Halt.bind_eq_ok.mp h
    cases h
    exact story_sweep returned
  | shutdown =>
    cases h
    exact story_shutdown start
  | ensureRoom name | dropRoom name =>
    cases h
    exact .single (.aside start.penalties _)
  | drain => exact absurd rfl other

end Endpoint

end SessionLayer
