import SessionLayer.Proofs.Endpoint.Step

/-!
# The course of an operation

An operation may enrol a new peer (`Endpoint.Opening`) and goes on with single steps.
`Endpoint.course_of_apply` is the main statement: every operation that returns is an
opening followed by a course, whose steps concern only the hosts that the operation
touches (`Endpoint.Touches`) and are of the kinds that belong to it
(`Operation.deeds`). What every step preserves is therefore preserved by every
operation.
-/

namespace SessionLayer

namespace Endpoint

variable {allowed : Host → Deed → Prop}

/-! ## Storing, fetching and ending -/

@[simp] theorem get?_put_self (endpoint : Endpoint) (remote : Address) (session : Session) :
    (endpoint.put remote session).roster.get? remote = some session :=
  Table.get?_insert_self _ _ _

theorem put_put (endpoint : Endpoint) (remote : Address) (first second : Session) :
    (endpoint.put remote first).put remote second = endpoint.put remote second := by
  simp only [put, Roster.put, Table.insert_insert]

/-- Datagrams that a stored session has for its peer are fetched with it. -/
theorem flush_put (endpoint : Endpoint) (remote : Address) (session : Session) :
    (endpoint.put remote session).flush remote =
      (endpoint.put remote session.takeOutgoing.2).enqueue remote session.takeOutgoing.1 := by
  unfold flush
  rw [get?_put_self]
  simp only [put_put]

theorem teardown_of_get? {endpoint : Endpoint} {remote : Address} {session : Session}
    (h : endpoint.roster.get? remote = some session) (cause : DisconnectCause) :
    endpoint.teardown remote cause =
      (farewellReport endpoint.rooms remote session cause, endpoint.release remote session) := by
  simp only [teardown, Roster.remove, h]
  rfl

theorem teardown_of_none {endpoint : Endpoint} {remote : Address}
    (h : endpoint.roster.get? remote = none) (cause : DisconnectCause) :
    endpoint.teardown remote cause = (.empty, endpoint) := by
  simp only [teardown, Roster.remove, h]

/-- Of a session that is stored only to be taken out nothing is left but its
datagrams. -/
theorem release_put (endpoint : Endpoint) (remote : Address) (stored session : Session) :
    (endpoint.put remote stored).release remote session = endpoint.release remote session := by
  simp only [release, put, Roster.put, Table.erase_insert]

theorem close_of_get? {endpoint : Endpoint} {remote : Address} {session : Session}
    (h : endpoint.roster.get? remote = some session) (farewell : Farewell)
    (cause : Farewell → DisconnectCause) :
    endpoint.close remote farewell cause =
      (farewellReport endpoint.rooms remote (session.disconnect (some farewell)).2
        (cause farewell), endpoint.release remote (session.disconnect (some farewell)).2) := by
  simp only [close, h]
  rw [teardown_of_get? (get?_put_self _ _ _), release_put]
  rfl

theorem close_of_none {endpoint : Endpoint} {remote : Address}
    (h : endpoint.roster.get? remote = none) (farewell : Farewell)
    (cause : Farewell → DisconnectCause) :
    endpoint.close remote farewell cause = (.empty, endpoint) := by
  simp only [close, h]
  exact teardown_of_none h _

theorem course_close {remote : Address} {farewell : Farewell}
    {cause : Farewell → DisconnectCause}
    (ends : ∀ session : Session,
      Ending session (cause farewell) (session.disconnect (some farewell)).2)
    (h : allowed remote.host .ended) (endpoint : Endpoint) :
    Course allowed endpoint (endpoint.close remote farewell cause).1
      (endpoint.close remote farewell cause).2 := by
  cases found : endpoint.roster.get? remote with
  | none =>
    rw [close_of_none found]
    exact .stay endpoint
  | some session =>
    rw [close_of_get? found]
    exact .single (.ended found (ends session)) h

/-! ## One address after the other -/

@[simp] theorem atEach_nil (endpoint : Endpoint)
    (operation : Endpoint → Address → Report × Endpoint) :
    endpoint.atEach [] operation = (.empty, endpoint) := rfl

theorem foldl_atEach (operation : Endpoint → Address → Report × Endpoint)
    (addresses : List Address) (report : Report) (endpoint : Endpoint) :
    addresses.foldl
        (fun (report, endpoint) remote =>
          let (more, endpoint) := operation endpoint remote
          (report ++ more, endpoint))
        (report, endpoint) =
      (report ++ (endpoint.atEach addresses operation).1,
        (endpoint.atEach addresses operation).2) := by
  induction addresses generalizing report endpoint with
  | nil => simp
  | cons remote rest ih =>
    simp only [atEach, List.foldl_cons] at ih ⊢
    rw [ih, ih (Report.empty ++ _), Report.empty_append, Report.append_assoc]

theorem atEach_cons (endpoint : Endpoint) (remote : Address) (rest : List Address)
    (operation : Endpoint → Address → Report × Endpoint) :
    endpoint.atEach (remote :: rest) operation =
      ((operation endpoint remote).1 ++ ((operation endpoint remote).2.atEach rest operation).1,
        ((operation endpoint remote).2.atEach rest operation).2) := by
  rw [atEach, List.foldl_cons, foldl_atEach, Report.empty_append]

theorem course_atEach {operation : Endpoint → Address → Report × Endpoint}
    {addresses : List Address}
    (each : ∀ remote ∈ addresses, ∀ endpoint : Endpoint,
      Course allowed endpoint (operation endpoint remote).1 (operation endpoint remote).2)
    (endpoint : Endpoint) :
    Course allowed endpoint (endpoint.atEach addresses operation).1
      (endpoint.atEach addresses operation).2 := by
  induction addresses generalizing endpoint with
  | nil => exact .stay endpoint
  | cons remote rest ih =>
    rw [atEach_cons]
    exact (each remote (List.mem_cons_self ..) endpoint).trans
      (ih (fun other present => each other (List.mem_cons_of_mem _ present)) _)

theorem course_disconnectBanned {host : Host} (h : allowed host .ended) (duration : Span)
    (endpoint : Endpoint) :
    Course allowed endpoint (endpoint.disconnectBanned host duration).1
      (endpoint.disconnectBanned host duration).2 := by
  refine course_atEach (fun remote present endpoint => ?_) endpoint
  have here : remote.host = host := by simpa using (List.mem_filter.mp present).2
  exact course_close (fun _ => .banned _) (here ▸ h) endpoint

/-! ## Openings -/

/-- Whether a datagram passes the gates that come before any session. -/
def admits (endpoint : Endpoint) (remote : Address) (datagram : Bytes) (now : Instant) : Bool :=
  datagram.length ≤ endpoint.settings.flood.maxPacketSize
    && (endpoint.penalties.banRemaining remote.host now).isNone
    && (PacketKind.peek datagram).toOption.isSome

/-- Whether an operation makes a session. -/
def opens (endpoint : Endpoint) : Operation → Bool
  | .datagram remote bytes now =>
    (endpoint.roster.get? remote).isNone && endpoint.admits remote bytes now
  | _ => false

/-- The endpoint with a session for a new peer, which gets the next number. -/
def enrol (endpoint : Endpoint) (remote : Address) (session : Session) : Endpoint :=
  { endpoint with
    roster :=
      { endpoint.roster with
        sessions := endpoint.roster.sessions.insert remote session
        clients := endpoint.roster.clients.insert endpoint.roster.nextClient remote
        nextClient := endpoint.roster.nextClient.next } }

/-- What an operation does before anything else: it makes a session where it must. -/
inductive Opening (endpoint : Endpoint) : Operation → Endpoint → Prop
  | known {operation : Operation} :
    endpoint.opens operation = false → Opening endpoint operation endpoint
  | fresh {remote : Address} {bytes : Bytes} {now : Instant} {session : Session} :
    endpoint.opens (.datagram remote bytes now) = true →
    Session.create endpoint.roster.nextClient remote endpoint.roster.settings
      endpoint.roster.flood now = .ok session →
    Opening endpoint (.datagram remote bytes now) (endpoint.enrol remote session)

theorem handleDatagram_of_admits {endpoint : Endpoint} {remote : Address} {bytes : Bytes}
    {now : Instant} (h : endpoint.admits remote bytes now = true) :
    ∃ kind, PacketKind.peek bytes = .ok kind ∧
      endpoint.handleDatagram remote bytes now = endpoint.handleKnown remote kind bytes now := by
  simp only [admits, Bool.and_eq_true, decide_eq_true_eq, Option.isNone_iff_eq_none] at h
  rcases h with ⟨⟨fits, allowed⟩, known⟩
  unfold handleDatagram
  rw [if_neg (by omega), allowed]
  cases peeked : PacketKind.peek bytes with
  | error fault => simp [peeked, Except.toOption] at known
  | ok kind => exact ⟨kind, rfl, rfl⟩

theorem handleDatagram_of_not_admits {endpoint : Endpoint} {remote : Address} {bytes : Bytes}
    {now : Instant} (h : endpoint.admits remote bytes now = false) :
    endpoint.handleDatagram remote bytes now = .ok (.empty, endpoint) ∨
      ∃ remaining, endpoint.penalties.banRemaining remote.host now = some remaining ∧
        endpoint.handleDatagram remote bytes now =
          .ok (.empty, endpoint.onBanned remote bytes remaining now) := by
  unfold handleDatagram
  split
  · exact .inl rfl
  rename_i fits
  split
  · rename_i remaining banned
    exact .inr ⟨remaining, banned, rfl⟩
  rename_i allowed
  split
  · exact .inl rfl
  · rename_i kind peeked
    simp [admits, allowed, peeked, Except.toOption] at h
    omega

/-- A datagram of a new peer is handled like one of a peer that has just got its
session. -/
theorem handleKnown_of_none {endpoint : Endpoint} {remote : Address}
    (absent : endpoint.roster.get? remote = none) (kind : PacketKind) (bytes : Bytes)
    (now : Instant) :
    endpoint.handleKnown remote kind bytes now =
      Session.create endpoint.roster.nextClient remote endpoint.roster.settings
        endpoint.roster.flood now >>= fun session =>
          (endpoint.enrol remote session).handleKnown remote kind bytes now := by
  simp only [handleKnown, Roster.lookupOrCreate, absent]
  cases Session.create endpoint.roster.nextClient remote endpoint.roster.settings
      endpoint.roster.flood now with
  | error halt => rfl
  | ok session =>
    have present : (endpoint.enrol remote session).roster.get? remote = some session :=
      Table.get?_insert_self _ _ _
    show _ = (endpoint.enrol remote session).handleKnown remote kind bytes now
    simp only [handleKnown, Roster.lookupOrCreate, present]
    rfl

/-- A packet that passes the limits goes to the session of its sender. -/
theorem handleKnown_of_accept {endpoint : Endpoint} {remote : Address} {session checked : Session}
    {kind : PacketKind} {bytes : Bytes} {packet : Packet} {now : Instant}
    (found : endpoint.roster.get? remote = some session)
    (returned : session.checkRate kind.trafficClass now = .ok (.accept, checked))
    (decoded : Packet.decode bytes = .ok packet) :
    endpoint.handleKnown remote kind bytes now =
      .ok ((endpoint.put remote checked).dispatch remote checked packet now) := by
  simp only [handleKnown, Roster.lookupOrCreate, found, bind, Except.bind, returned, decoded]
  rfl

/-! ## Datagrams -/

theorem course_onBanned {remote : Address} {bytes : Bytes} {remaining : Span} {now : Instant}
    (judged : allowed remote.host .judged) (noticed : allowed remote.host .noticed)
    (endpoint : Endpoint) :
    Course allowed endpoint .empty (endpoint.onBanned remote bytes remaining now) := by
  unfold onBanned
  split
  · have noted : Step remote.host .judged endpoint .empty
        { endpoint with penalties := (endpoint.penalties.grantNotice remote.host now).2 } :=
      .judged (PenaltyBook.sameBut_grantNotice _ _ _)
    have start : Course allowed endpoint .empty
        { endpoint with penalties := (endpoint.penalties.grantNotice remote.host now).2 } :=
      .single noted judged
    simp only
    split
    · simp only [rejectBanned]
      split
      · rename_i notice _
        exact start.trans (.single (.noticed remote notice) noticed)
      · exact start
    · exact start
  · exact .stay endpoint

theorem course_penalize {start finish : Endpoint} {remote : Address} {now : Instant}
    {report : Report} (judged : allowed remote.host .judged) (ended : allowed remote.host .ended)
    (h : start.penalize remote now = .ok (report, finish)) : Course allowed start report finish := by
  simp only [penalize, Halt.bind_eq_ok] at h
  rcases h with ⟨⟨verdict, book⟩, recorded, h⟩
  have first : Step remote.host .judged start .empty { start with penalties := book } :=
    .judged (PenaltyBook.sameBut_recordOffense recorded)
  have rest : Course allowed { start with penalties := book } report finish := by
    cases verdict with
    | disconnect =>
      simp only [Halt.pure_eq_ok] at h
      have ends (farewell : Farewell) (session : Session) :
          Ending session (.rateLimited farewell) (session.disconnect (some farewell)).2 :=
        .rateLimited farewell
      have closing := course_close (ends ({ start with penalties := book }.localizedFarewell
        remote .custom start.settings.penalty.disconnectMessage [])) ended
        { start with penalties := book }
      rwa [h] at closing
    | ban duration =>
      simp only [Halt.pure_eq_ok] at h
      have closing := course_disconnectBanned ended duration { start with penalties := book }
      rwa [h] at closing
  exact (Course.single first judged).trans rest

/-- A session whose datagrams were fetched has none left when it is taken out. -/
theorem release_flushed (endpoint : Endpoint) (remote : Address) (session : Session) :
    ((endpoint.put remote session.takeOutgoing.2).enqueue remote
        session.takeOutgoing.1).release remote session.takeOutgoing.2 =
      endpoint.release remote session := by
  simp only [release, enqueue, put, Roster.put, Table.erase_insert]
  rfl

theorem dispatch_of_stays {session : Session} {packet : Packet} {now : Instant}
    (stays : peerFarewell? (session.handlePacket packet now).1 = none) (endpoint : Endpoint)
    (remote : Address) :
    endpoint.dispatch remote session packet now =
      (.ofEvents ((session.handlePacket packet now).1.filterMap
          (eventOf? remote (session.handlePacket packet now).2)),
        (endpoint.put remote (session.handlePacket packet now).2.takeOutgoing.2).enqueue remote
          (session.handlePacket packet now).2.takeOutgoing.1) := by
  simp only [dispatch, flush_put, stays]

/-- A packet with which the peer leaves only takes out the session. -/
theorem dispatch_of_leaves {session : Session} {packet : Packet} {now : Instant}
    {farewell : Option Farewell}
    (leaves : peerFarewell? (session.handlePacket packet now).1 = some farewell)
    (endpoint : Endpoint) (remote : Address) :
    endpoint.dispatch remote session packet now =
      (farewellReport endpoint.rooms remote (session.handlePacket packet now).2
          (.byPeer farewell),
        endpoint.release remote (session.handlePacket packet now).2) := by
  have alone := ((session.hearing packet now).of_peerFarewell? leaves).1
  have stored : ((endpoint.put remote
      (session.handlePacket packet now).2.takeOutgoing.2).enqueue remote
      (session.handlePacket packet now).2.takeOutgoing.1).roster.get? remote =
      some (session.handlePacket packet now).2.takeOutgoing.2 :=
    get?_put_self _ _ _
  simp only [dispatch, flush_put, leaves]
  rw [teardown_of_get? stored, release_flushed, alone]
  rfl

theorem course_dispatch {endpoint : Endpoint} {remote : Address} {session : Session}
    {now : Instant} (packet : Packet) (received : allowed remote.host (.received now))
    (ended : allowed remote.host .ended)
    (found : endpoint.roster.get? remote = some session) :
    Course allowed endpoint (endpoint.dispatch remote session packet now).1
      (endpoint.dispatch remote session packet now).2 := by
  cases left : peerFarewell? (session.handlePacket packet now).1 with
  | none =>
    rw [dispatch_of_stays left]
    exact .single (.turned found (.received packet now left)) received
  | some farewell =>
    rw [dispatch_of_leaves left]
    exact .single (.ended found (.left packet now left)) ended

theorem course_handleKnown {start finish : Endpoint} {remote : Address} {session : Session}
    {kind : PacketKind} {bytes : Bytes} {now : Instant} {report : Report}
    (may : ∀ deed ∈ [Deed.checked now, .received now, .ended, .judged],
      allowed remote.host deed)
    (found : start.roster.get? remote = some session)
    (h : start.handleKnown remote kind bytes now = .ok (report, finish)) :
    Course allowed start report finish := by
  simp only [handleKnown, Roster.lookupOrCreate, found, Halt.bind_eq_ok] at h
  rcases h with ⟨_, known, ⟨decision, checked⟩, returned, h⟩
  cases known
  simp only at returned h
  have first : Course allowed start .empty (start.put remote checked) :=
    .single (.turned found (.checked returned)) (may _ (by simp))
  have stored : (start.put remote checked).roster.get? remote = some checked :=
    get?_put_self _ _ _
  cases decision with
  | drop warnings =>
    cases h
    exact first
  | penalize =>
    exact first.trans (course_penalize (may _ (by simp)) (may _ (by simp)) h)
  | accept =>
    simp only at h
    split at h
    · cases h
      exact first
    · rename_i packet _
      have rest := course_dispatch packet (may (.received now) (by simp))
        (may .ended (by simp)) stored
      have same : (start.put remote checked).dispatch remote checked packet now =
          (report, finish) := Halt.pure_eq_ok.mp h
      rw [same] at rest
      exact first.trans rest

/-! ## Sweeps -/

/-- What a sweep does at one address. -/
inductive Swept (start : Endpoint) (remote : Address) (now : Instant) : Report → Endpoint → Prop
  | absent : start.roster.get? remote = none → Swept start remote now .empty start
  | kept {session next : Session} {upkeep : Upkeep} :
    start.roster.get? remote = some session → session.maintain now = .ok (upkeep, next) →
    upkeep.health = .alive →
    Swept start remote now (.ofEvents (upkeep.released.map (Event.message next.client · true)))
      ((start.put remote next.takeOutgoing.2).enqueue remote next.takeOutgoing.1)
  | unresponsive {session : Session} :
    start.roster.get? remote = some session → session.isUnresponsive now = true →
    Swept start remote now
      (farewellReport start.rooms remote (session.disconnect (some (.plain .none))).2 .timeout)
      (start.release remote (session.disconnect (some (.plain .none))).2)
  | idle {session : Session} :
    start.roster.get? remote = some session → session.isIdentified = false →
    session.isIdle now = true →
    Swept start remote now (farewellReport start.rooms remote session .timeout)
      (start.release remote session)

theorem swept_of_sweepAt {start finish : Endpoint} {remote : Address} {now : Instant}
    {report : Report} (h : start.sweepAt remote now = .ok (report, finish)) :
    start.Swept remote now report finish := by
  unfold sweepAt at h
  split at h
  · rename_i absent
    cases h
    exact .absent absent
  rename_i session found
  simp only [Halt.bind_eq_ok] at h
  rcases h with ⟨⟨upkeep, next⟩, returned, h⟩
  have looked := Session.looking returned
  simp only at h
  split at h
  · rename_i alive
    rw [Halt.pure_eq_ok] at h
    cases h
    rw [flush_put]
    exact .kept found returned alive
  · rename_i gone
    have unchanged : next = session ∧ session.isUnresponsive now = true := by
      cases looked <;> simp_all [Upkeep.only]
    rcases unchanged with ⟨rfl, stalled⟩
    rw [Halt.pure_eq_ok, teardown_of_get? (get?_put_self _ _ _), release_put,
      looked.released_eq_nil (.inr (by simp [gone]))] at h
    cases h
    exact .unresponsive found stalled
  · rename_i gone
    have unchanged : next = session ∧ session.isIdentified = false ∧
        session.isIdle now = true := by
      cases looked <;> simp_all [Upkeep.only]
    rcases unchanged with ⟨rfl, unknown, silent⟩
    rw [Halt.pure_eq_ok, teardown_of_get? (get?_put_self _ _ _), release_put,
      looked.released_eq_nil (.inl unknown)] at h
    cases h
    exact .idle found unknown silent

theorem course_sweepAt {start finish : Endpoint} {remote : Address} {now : Instant}
    {report : Report} (kept : allowed remote.host (.kept now))
    (ended : allowed remote.host .ended)
    (h : start.sweepAt remote now = .ok (report, finish)) : Course allowed start report finish := by
  cases swept_of_sweepAt h with
  | absent _ => exact .stay start
  | kept found returned alive => exact .single (.turned found (.kept returned alive)) kept
  | unresponsive found stalled => exact .single (.ended found (.unresponsive stalled)) ended
  | idle found unknown silent => exact .single (.ended found (.idle unknown silent)) ended

theorem course_sweepAll {start finish : Endpoint} {addresses : List Address} {now : Instant}
    {report : Report}
    (may : ∀ remote ∈ addresses,
      allowed remote.host (.kept now) ∧ allowed remote.host .ended)
    (h : sweepAll now addresses start = .ok (report, finish)) :
    Course allowed start report finish := by
  induction addresses generalizing start report with
  | nil =>
    cases h
    exact .stay _
  | cons remote rest ih =>
    simp only [sweepAll, Halt.bind_eq_ok, Halt.pure_eq_ok] at h
    rcases h with ⟨⟨first, middle⟩, one, ⟨more, last⟩, others, h⟩
    cases h
    obtain ⟨kept, ended⟩ := may remote (List.mem_cons_self ..)
    exact (course_sweepAt kept ended one).trans
      (ih (fun other present => may other (List.mem_cons_of_mem _ present)) others)

/-- A sweep visits all peers and then purges the penalties. -/
theorem sweep_eq_ok {start finish : Endpoint} {now : Instant} {report : Report} :
    start.sweep now = .ok (report, finish) ↔
      ∃ swept, sweepAll now start.roster.addresses start = .ok (report, swept) ∧
        finish = { swept with penalties := (swept.penalties.purgeExpired now).2 } := by
  simp only [sweep, sweepInOrder, Halt.bind_eq_ok, Halt.pure_eq_ok, Prod.mk.injEq]
  constructor
  · rintro ⟨⟨told, swept⟩, visited, rfl, rfl⟩
    exact ⟨swept, visited, rfl⟩
  · rintro ⟨swept, visited, rfl⟩
    exact ⟨(report, swept), visited, rfl, rfl⟩

/-! ## Operations -/

/-- The hosts that an operation may concern. -/
def Touches (endpoint : Endpoint) : Operation → Host → Prop
  | .datagram remote _ _, host => host = remote.host
  | .send client _ _ _, host | .disconnect client _, host
  | .disconnectLocalized client _ _ _, host | .attachRoom client _, host
  | .detachRoom client, host =>
    ∃ remote, endpoint.roster.addressOf? client = some remote ∧ host = remote.host
  | .ban banned _ _, host | .unban banned, host => host = banned
  | .sweep _, _ | .shutdown, _ | .ensureRoom _, _ | .dropRoom _, _ | .drain, _ => True

end Endpoint

/-- The kinds of steps that an operation may take. -/
def Operation.deeds : Operation → List Deed
  | .datagram _ _ now => [.checked now, .received now, .ended, .judged, .noticed]
  | .send _ _ _ now => [.sent now]
  | .disconnect _ _ | .disconnectLocalized _ _ _ _ | .shutdown => [.ended]
  | .attachRoom _ _ | .detachRoom _ => [.seated]
  | .ban _ _ _ => [.judged, .ended]
  | .unban _ => [.judged]
  | .sweep now => [.kept now, .ended, .aside]
  | .ensureRoom _ | .dropRoom _ | .drain => [.aside]

namespace Endpoint

/-- The steps that an operation may take at this moment. -/
def May (endpoint : Endpoint) (operation : Operation) (host : Host) (deed : Deed) : Prop :=
  endpoint.Touches operation host ∧ deed ∈ operation.deeds

theorem eq_of_find? {endpoint : Endpoint} {client : ClientId} {remote : Address}
    {session : Session} (h : endpoint.find? client = some (remote, session)) :
    endpoint.roster.addressOf? client = some remote ∧
      endpoint.roster.get? remote = some session := by
  simp only [find?, Option.bind_eq_bind, Option.pure_def, Option.bind_eq_some_iff,
    Option.some.injEq, Prod.mk.injEq] at h
  rcases h with ⟨_, known, _, found, rfl, rfl⟩
  exact ⟨known, found⟩

theorem course_datagram {start finish : Endpoint} {remote : Address} {bytes : Bytes}
    {now : Instant} {report : Report}
    (h : start.handleDatagram remote bytes now = .ok (report, finish)) :
    ∃ opened, Opening start (.datagram remote bytes now) opened ∧
      Course (start.May (.datagram remote bytes now)) opened report finish := by
  have may (deed : Deed)
      (known : deed ∈ (Operation.datagram remote bytes now).deeds) :
      start.May (.datagram remote bytes now) remote.host deed := ⟨rfl, known⟩
  cases passes : start.admits remote bytes now with
  | false =>
    have unopened : start.opens (.datagram remote bytes now) = false := by simp [opens, passes]
    rcases handleDatagram_of_not_admits passes with dropped | ⟨remaining, -, banned⟩
    · rw [dropped] at h
      cases h
      exact ⟨_, .known unopened, .stay _⟩
    · rw [banned] at h
      cases h
      exact ⟨_, .known unopened, course_onBanned (may _ (by simp [Operation.deeds]))
        (may _ (by simp [Operation.deeds])) start⟩
  | true =>
    obtain ⟨kind, -, same⟩ := handleDatagram_of_admits passes
    rw [same] at h
    have may' (deed : Deed) (known : deed ∈ [Deed.checked now, .received now, .ended, .judged]) :
        start.May (.datagram remote bytes now) remote.host deed :=
      may deed (by simp only [Operation.deeds, List.mem_cons] at known ⊢; grind)
    cases found : start.roster.get? remote with
    | some session =>
      exact ⟨start, .known (by simp [opens, found]), course_handleKnown may' found h⟩
    | none =>
      rw [handleKnown_of_none found, Halt.bind_eq_ok] at h
      rcases h with ⟨session, made, h⟩
      exact ⟨start.enrol remote session, .fresh (by simp [opens, found, passes]) made,
        course_handleKnown may' (Table.get?_insert_self _ _ _) h⟩

/-- What comes of a payload for a client. -/
inductive Posting (start : Endpoint) (client : ClientId) (payload : Payload) (reliable : Bool)
    (now : Instant) : Except SessionFault (Option Sequence) → Endpoint → Prop
  | unknown : start.find? client = none →
    Posting start client payload reliable now (.error (.notFound client)) start
  | sent {remote : Address} {session next : Session} {number : Option Sequence} :
    start.roster.addressOf? client = some remote → start.roster.get? remote = some session →
    session.send payload reliable now = .ok (.ok number, next) →
    Posting start client payload reliable now (.ok number)
      ((start.put remote next.takeOutgoing.2).enqueue remote next.takeOutgoing.1)
  | refused {remote : Address} {session next : Session} {fault : SessionFault} :
    start.roster.addressOf? client = some remote → start.roster.get? remote = some session →
    session.send payload reliable now = .ok (.error fault, next) →
    Posting start client payload reliable now (.error fault) (start.put remote next)

theorem posting_of_send {start finish : Endpoint} {client : ClientId} {payload : Payload}
    {reliable : Bool} {now : Instant} {answer : Except SessionFault (Option Sequence)}
    (h : start.send client payload reliable now = .ok (answer, finish)) :
    start.Posting client payload reliable now answer finish := by
  unfold send at h
  split at h
  · rename_i absent
    cases h
    exact .unknown absent
  rename_i remote session found
  obtain ⟨known, stored⟩ := eq_of_find? found
  simp only [Halt.bind_eq_ok] at h
  rcases h with ⟨⟨reply, next⟩, returned, h⟩
  cases reply with
  | ok number =>
    simp only [flush_put, Halt.pure_eq_ok] at h
    cases h
    exact .sent known stored returned
  | error fault =>
    simp only [Halt.pure_eq_ok] at h
    cases h
    exact .refused known stored returned

theorem course_send {start finish : Endpoint} {client : ClientId} {payload : Payload}
    {reliable : Bool} {now : Instant} {answer : Except SessionFault (Option Sequence)}
    (h : start.send client payload reliable now = .ok (answer, finish)) :
    Course (start.May (.send client payload reliable now)) start .empty finish := by
  cases posting_of_send h with
  | unknown _ => exact .stay _
  | sent known stored returned =>
    exact .single (.turned stored (.sent returned)) ⟨⟨_, known, rfl⟩, List.mem_singleton_self _⟩
  | refused known stored returned =>
    exact .single (.turned stored (.refused returned))
      ⟨⟨_, known, rfl⟩, List.mem_singleton_self _⟩

theorem course_attachRoom (start : Endpoint) (client : ClientId) (room : RoomKey) :
    Course (start.May (.attachRoom client room)) start .empty
      (start.attachRoom client room).2 := by
  unfold attachRoom
  split
  · exact .stay start
  rename_i remote session found
  obtain ⟨known, stored⟩ := eq_of_find? found
  split
  · exact .single (.turned stored (.seated room))
      ⟨⟨remote, known, rfl⟩, List.mem_singleton_self _⟩
  · exact .stay start

theorem course_detachRoom (start : Endpoint) (client : ClientId) :
    Course (start.May (.detachRoom client)) start .empty (start.detachRoom client).2 := by
  unfold detachRoom
  split
  · exact .stay start
  rename_i remote session found
  obtain ⟨known, stored⟩ := eq_of_find? found
  exact .single (.turned stored .unseated) ⟨⟨remote, known, rfl⟩, List.mem_singleton_self _⟩

theorem report_ofUnit (result : Except SessionFault Unit) :
    (Outcome.ofUnit result).report = .empty := by
  cases result <;> rfl

theorem report_ofSent (result : Except SessionFault (Option Sequence)) :
    (Outcome.ofSent result).report = .empty := by
  cases result <;> rfl

theorem course_disconnect (start : Endpoint) (client : ClientId) (farewell : Farewell) :
    Course (start.May (.disconnect client farewell)) start
      (Outcome.ofResult (start.disconnect client farewell).1).report
      (start.disconnect client farewell).2 := by
  unfold disconnect
  split
  · exact .stay start
  · rename_i remote known
    exact course_close (fun _ => .byServer farewell)
      ⟨⟨remote, known, rfl⟩, List.mem_singleton_self _⟩ start

theorem course_disconnectLocalized (start : Endpoint) (client : ClientId)
    (reason : DisconnectReason) (text : LocalizedText) (args : List String) :
    Course (start.May (.disconnectLocalized client reason text args)) start
      (Outcome.ofResult (start.disconnectLocalized client reason text args).1).report
      (start.disconnectLocalized client reason text args).2 := by
  unfold disconnectLocalized
  split
  · exact .stay start
  · rename_i remote known
    exact course_close (fun _ => .byServer _)
      ⟨⟨remote, known, rfl⟩, List.mem_singleton_self _⟩ start

theorem course_ban {start finish : Endpoint} {host : Host} {duration : Span} {now : Instant}
    {report : Report} (h : start.ban host duration now = .ok (report, finish)) :
    Course (start.May (.ban host duration now)) start report finish := by
  simp only [ban, Halt.bind_eq_ok, Halt.pure_eq_ok] at h
  obtain ⟨book, banned, closed⟩ := h
  have may (deed : Deed) (known : deed ∈ [Deed.judged, .ended]) :
      start.May (.ban host duration now) host deed := ⟨rfl, known⟩
  have rest := course_disconnectBanned (may .ended (by simp)) duration
    { start with penalties := book }
  rw [closed] at rest
  have first : Step host .judged start .empty { start with penalties := book } :=
    .judged (PenaltyBook.sameBut_ban banned)
  exact (Course.single first (may .judged (by simp))).trans rest

theorem course_sweep {start finish : Endpoint} {now : Instant} {report : Report}
    (h : start.sweep now = .ok (report, finish)) :
    Course (start.May (.sweep now)) start report finish := by
  obtain ⟨middle, visited, rfl⟩ := sweep_eq_ok.mp h
  have may (host : Host) (deed : Deed) (known : deed ∈ [Deed.kept now, .ended, .aside]) :
      start.May (.sweep now) host deed := ⟨trivial, known⟩
  have visits : Course (start.May (.sweep now)) start report middle :=
    course_sweepAll (fun _ _ => ⟨may _ _ (by simp), may _ _ (by simp)⟩) visited
  have purged : Step default .aside middle .empty
      { middle with penalties := (middle.penalties.purgeExpired now).2 } :=
    .aside default _ middle.outgoing middle.rooms
  have whole := visits.trans (.single purged (may _ _ (by simp)))
  rwa [Report.append_empty] at whole

theorem course_shutdown (start : Endpoint) :
    Course (start.May .shutdown) start start.shutdown.1 start.shutdown.2 :=
  course_atEach
    (fun _ _ => course_close (fun _ => .byServer _) ⟨trivial, List.mem_singleton_self _⟩) start

/-- What belongs to no host is changed in a single step. -/
theorem course_aside {start : Endpoint} {operation : Operation}
    (concerns : start.May operation default .aside) (queue : Queue (Address × Bytes))
    (rooms : RoomTable) :
    Course (start.May operation) start .empty { start with outgoing := queue, rooms } :=
  .single (.aside default start.penalties queue rooms) concerns

/-- Every operation that returns is an opening followed by steps that it may take. -/
theorem course_of_apply {start finish : Endpoint} {operation : Operation} {outcome : Outcome}
    (h : start.apply operation = .ok (outcome, finish)) :
    ∃ opened, Opening start operation opened ∧
      Course (start.May operation) opened outcome.report finish := by
  cases operation with
  | datagram remote bytes now =>
    obtain ⟨_, handled, h⟩ := Halt.bind_eq_ok.mp h
    cases h
    exact course_datagram handled
  | send client payload reliable now =>
    obtain ⟨_, returned, h⟩ := Halt.bind_eq_ok.mp h
    cases h
    rw [report_ofSent]
    exact ⟨start, .known rfl, course_send returned⟩
  | disconnect client farewell =>
    cases h
    exact ⟨start, .known rfl, course_disconnect start client farewell⟩
  | disconnectLocalized client reason text args =>
    cases h
    exact ⟨start, .known rfl, course_disconnectLocalized start client reason text args⟩
  | attachRoom client room =>
    cases h
    rw [report_ofUnit]
    exact ⟨start, .known rfl, course_attachRoom start client room⟩
  | detachRoom client =>
    cases h
    rw [report_ofUnit]
    exact ⟨start, .known rfl, course_detachRoom start client⟩
  | ban host duration now =>
    obtain ⟨_, returned, h⟩ := Halt.bind_eq_ok.mp h
    cases h
    exact ⟨start, .known rfl, course_ban returned⟩
  | unban host =>
    cases h
    exact ⟨start, .known rfl, .single (.judged (PenaltyBook.sameBut_unban _ host))
      ⟨rfl, List.mem_singleton_self _⟩⟩
  | sweep now =>
    obtain ⟨_, returned, h⟩ := Halt.bind_eq_ok.mp h
    cases h
    exact ⟨start, .known rfl, course_sweep returned⟩
  | shutdown =>
    cases h
    exact ⟨start, .known rfl, course_shutdown start⟩
  | ensureRoom name | dropRoom name | drain =>
    cases h
    refine ⟨start, .known rfl, course_aside ?_ _ _⟩
    exact ⟨trivial, List.mem_singleton_self _⟩

theorem run_cons_eq_ok {start finish : Endpoint} {operation : Operation}
    {rest : List Operation} {outcomes : List Outcome} :
    start.run (operation :: rest) = .ok (outcomes, finish) ↔
      ∃ outcome middle others, start.apply operation = .ok (outcome, middle) ∧
        middle.run rest = .ok (others, finish) ∧ outcomes = outcome :: others := by
  simp only [run, Halt.bind_eq_ok, Halt.pure_eq_ok, Prod.mk.injEq]
  constructor
  · rintro ⟨⟨outcome, middle⟩, first, ⟨others, last⟩, returned, rfl, rfl⟩
    exact ⟨outcome, middle, others, first, returned, rfl⟩
  · rintro ⟨outcome, middle, others, first, returned, rfl⟩
    exact ⟨⟨outcome, middle⟩, first, ⟨others, finish⟩, returned, rfl, rfl⟩

theorem run_append_eq_ok {start finish : Endpoint} {before after : List Operation}
    {outcomes : List Outcome} :
    start.run (before ++ after) = .ok (outcomes, finish) ↔
      ∃ told middle later, start.run before = .ok (told, middle) ∧
        middle.run after = .ok (later, finish) ∧ outcomes = told ++ later := by
  induction before generalizing start outcomes with
  | nil =>
    constructor
    · intro ran
      exact ⟨[], start, outcomes, rfl, ran, rfl⟩
    · rintro ⟨told, middle, later, none, ran, rfl⟩
      cases none
      exact ran
  | cons operation rest ih =>
    rw [List.cons_append, run_cons_eq_ok]
    constructor
    · rintro ⟨outcome, next, others, applied, ran, rfl⟩
      obtain ⟨told, middle, later, first, last, rfl⟩ := ih.mp ran
      exact ⟨outcome :: told, middle, later,
        run_cons_eq_ok.mpr ⟨outcome, next, told, applied, first, rfl⟩, last, rfl⟩
    · rintro ⟨_, middle, later, first, last, rfl⟩
      obtain ⟨outcome, next, told, applied, ran, rfl⟩ := run_cons_eq_ok.mp first
      exact ⟨outcome, next, told ++ later, applied,
        ih.mpr ⟨told, middle, later, ran, last, rfl⟩, rfl⟩

end Endpoint

/-- All events that a run raises, in order. -/
def eventsOf (outcomes : List Outcome) : List Event :=
  outcomes.flatMap fun outcome => outcome.report.events

end SessionLayer
