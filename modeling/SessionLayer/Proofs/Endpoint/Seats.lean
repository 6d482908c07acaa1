import SessionLayer.Proofs.Endpoint.Index
import SessionLayer.Proofs.Endpoint.Replica

/-!
# The seats in rooms

A client that the application puts into a room has a seat there, until it is taken out of
the room, is put into another one, or is gone. Only in the last case is the room told, if it
is still there, and it is told once: `Endpoint.seat_released_once`.

`seatOf` reads the seat of a client off the commands of the application. The invariant
`Endpoint.Seated` says that the sessions agree with it, and `Fate` says what the steps of one
operation tell of a client: nothing while its session stays, and its end once.
-/

namespace SessionLayer

/-! ## Seats -/

/-- The seat of a client after an operation that was answered like this. -/
def Operation.seatAfter (client : ClientId) (seat : Option RoomKey) :
    Operation → Answer → Option RoomKey
  | .attachRoom seated room, .done => if seated = client then some room else seat
  | .detachRoom seated, .done => if seated = client then none else seat
  | _, _ => seat

/-- The room that a client was put into last and was not taken out of since, after these
operations and what came of them. -/
def seatOf (client : ClientId) (history : List (Operation × Outcome)) : Option RoomKey :=
  history.foldl (fun seat done => done.1.seatAfter client seat done.2.answer) none

theorem seatOf_append (client : ClientId) (history : List (Operation × Outcome))
    (operation : Operation) (outcome : Outcome) :
    seatOf client (history ++ [(operation, outcome)]) =
      operation.seatAfter client (seatOf client history) outcome.answer := by
  rw [seatOf, List.foldl_append]
  rfl

/-- The operation puts a client into a room or takes it out. -/
def Operation.Seats (operation : Operation) : Prop :=
  (∃ client room, operation = .attachRoom client room) ∨ ∃ client, operation = .detachRoom client

theorem Operation.seatAfter_of_not_seats {operation : Operation} (other : ¬ operation.Seats)
    (client : ClientId) (seat : Option RoomKey) (answer : Answer) :
    operation.seatAfter client seat answer = seat := by
  cases operation with
  | attachRoom client room => exact absurd (.inl ⟨client, room, rfl⟩) other
  | detachRoom client => exact absurd (.inr ⟨client, rfl⟩) other
  | _ => rfl

/-! ## What is told of one client -/

/-- Whether the application hears with this event that a client is gone. -/
def Event.ends (client : ClientId) : Event → Bool
  | .disconnected gone _ _ => gone = client
  | .identified _ _ _ | .message _ _ _ => false

namespace Report

/-- What rooms are told of a client. -/
def releases (report : Report) (client : ClientId) : List Detachment :=
  report.detached.filter (·.client = client)

/-- The events with which the application hears that a client is gone. -/
def endings (report : Report) (client : ClientId) : List Event :=
  report.events.filter (Event.ends client)

/-- Nobody is told that this client is gone. -/
structure Spares (report : Report) (client : ClientId) : Prop where
  releases : report.releases client = []
  endings : report.endings client = []

theorem releases_append (first second : Report) (client : ClientId) :
    (first ++ second).releases client = first.releases client ++ second.releases client :=
  List.filter_append ..

theorem endings_append (first second : Report) (client : ClientId) :
    (first ++ second).endings client = first.endings client ++ second.endings client :=
  List.filter_append ..

theorem spares_empty (client : ClientId) : empty.Spares client := ⟨rfl, rfl⟩

variable {first second : Report} {client : ClientId}

theorem Spares.append (left : first.Spares client) (right : second.Spares client) :
    (first ++ second).Spares client where
  releases := by rw [releases_append, left.releases, right.releases, List.append_nil]
  endings := by rw [endings_append, left.endings, right.endings, List.append_nil]

end Report

/-- A turn of a session tells of nobody's end. -/
theorem Telling.spares {remote : Address} {session next : Session} {events : List Event}
    (telling : Telling remote session next events) (client : ClientId) :
    (Report.ofEvents events).Spares client := by
  refine ⟨rfl, ?_⟩
  cases telling with
  | nothing _ => rfl
  | identified _ _ _ => rfl
  | messages bodies _ _ =>
    refine List.filter_eq_nil_iff.mpr fun event told => ?_
    obtain ⟨body, -, rfl⟩ := List.mem_map.mp told
    simp [Event.ends]

namespace Endpoint

variable {rooms : RoomTable} {remote : Address} {session next : Session} {client : ClientId}
  {cause : DisconnectCause}

/-- With the end of a session its room is told, if it has one that exists. -/
theorem releases_farewellReport :
    (farewellReport rooms remote session cause).releases session.client =
      (session.liveRoom? rooms).toList.map fun room => ⟨room, session.client, cause⟩ := by
  refine List.filter_eq_self.mpr fun detachment told => ?_
  obtain ⟨room, -, rfl⟩ := List.mem_map.mp told
  exact decide_eq_true rfl

/-- With the end of a session the application is told, if it has heard of the client. -/
theorem endings_farewellReport (known : session.isIdentified = true) :
    (farewellReport rooms remote session cause).endings session.client =
      [.disconnected session.client remote cause] := by
  rw [Report.endings, events_farewellReport, if_pos known]
  simp [Event.ends]

theorem spares_farewellReport (other : client ≠ session.client) :
    (farewellReport rooms remote session cause).Spares client := by
  constructor
  · refine List.filter_eq_nil_iff.mpr fun detachment told => ?_
    obtain ⟨room, -, rfl⟩ := List.mem_map.mp told
    simpa using Ne.symm other
  · rw [Report.endings, events_farewellReport]
    split <;> simp [Event.ends, Ne.symm other]

end Endpoint

/-! ## Rooms stay with their sessions -/

/-- Only the application moves a client between rooms. -/
theorem Turn.room_eq {remote : Address} {deed : Deed} {session next : Session}
    {events : List Event} {sent : List Bytes} (h : Turn remote deed session events sent next)
    (unseated : deed ≠ .seated) : next.room = session.room := by
  cases h with
  | checked checked => rw [(Session.checkRate_eq_ok checked).2]
  | received packet now _ => exact session.room_handlePacket packet now
  | sent returned | refused returned => cases Session.sending returned <;> rfl
  | kept returned _ =>
    cases Session.looking returned with
    | keptUp => simp only [Session.takeOutgoing]; rw [Session.expireGaps_frame]; rfl
    | _ => rfl
  | seated room => exact absurd rfl unseated
  | unseated => exact absurd rfl unseated

theorem Ending.room_eq {session next : Session} {cause : DisconnectCause}
    (h : Ending session cause next) : next.room = session.room := by
  cases h with
  | left packet now _ => exact session.room_handlePacket packet now
  | idle _ _ => rfl
  | _ => rw [Session.disconnect_frame]

namespace Endpoint

variable {start middle finish opened : Endpoint} {report : Report} {remote : Address}
  {session : Session} {client : ClientId} {operation : Operation} {outcome : Outcome}
  {issued : Nat} {history : List (Operation × Outcome)}

/-! ## What becomes of a session in an operation -/

/-- The kinds of steps that leave alone who sits where. -/
def KeepsSeats (deed : Deed) : Prop := deed ≠ .seated ∧ deed ≠ .aside

/-- What becomes of a session, and what is told of its client. Only the rooms that exist
beforehand are told. -/
inductive Fate (rooms : RoomTable) (remote : Address) (session : Session) (report : Report)
    (roster : Roster) : Prop
  | stays {next : Session} :
    roster.get? remote = some next → next.client = session.client →
    next.room = session.room → (session.isIdentified = true → next.isIdentified = true) →
    report.Spares session.client → Fate rooms remote session report roster
  | leaves (cause : DisconnectCause) :
    roster.get? remote = none → roster.addressOf? session.client = none →
    report.releases session.client =
      (session.liveRoom? rooms).toList.map (fun room => ⟨room, session.client, cause⟩) →
    (session.isIdentified = true →
      report.endings session.client = [.disconnected session.client remote cause]) →
    Fate rooms remote session report roster

/-- Nobody is told of a client that has no session. -/
theorem Step.spares {host : Host} {deed : Deed} (numbered : start.Numbered issued)
    (step : Step host deed start report finish) (gone : start.roster.addressOf? client = none) :
    report.Spares client := by
  cases step with
  | turned stored turn => exact turn.telling.spares client
  | @ended _ other session next cause stored ending =>
    refine spares_farewellReport ?_
    rintro rfl
    rw [ending.samePeer.client, numbered.found stored] at gone
    cases gone
  | _ => exact Report.spares_empty client

theorem Course.spares {allowed : Host → Deed → Prop} (numbered : start.Numbered issued)
    (course : Course allowed start report finish)
    (gone : start.roster.addressOf? client = none) : report.Spares client := by
  induction course with
  | stay => exact Report.spares_empty client
  | step one _ _ ih =>
    exact (one.spares numbered gone).append
      (ih (numbered.of_step one) (one.addressOf?_eq_none gone))

/-- No step makes a session. -/
theorem Step.get?_eq_none {host : Host} {deed : Deed} (step : Step host deed start report finish)
    (absent : start.roster.get? remote = none) : finish.roster.get? remote = none := by
  cases step with
  | @turned _ other _ before next events sent there turn =>
    have elsewhere : remote ≠ other := by
      rintro rfl
      rw [there] at absent
      cases absent
    rw [roster_enqueue, get?_put, if_neg elsewhere, absent]
  | ended there ending =>
    rw [get?_release, absent, ite_self]
  | _ => exact absent

theorem Course.get?_eq_none {allowed : Host → Deed → Prop}
    (course : Course allowed start report finish)
    (absent : start.roster.get? remote = none) : finish.roster.get? remote = none := by
  induction course with
  | stay => exact absent
  | step one _ _ ih => exact ih (one.get?_eq_none absent)

theorem Step.fate {host : Host} {deed : Deed} (numbered : start.Numbered issued)
    (step : Step host deed start report finish) (keeps : KeepsSeats deed)
    (stored : start.roster.get? remote = some session) :
    Fate start.rooms remote session report finish.roster ∧ finish.rooms = start.rooms := by
  have untouched (same : finish.roster = start.roster) (silent : report.Spares session.client) :
      Fate start.rooms remote session report finish.roster :=
    .stays (same ▸ stored) rfl rfl id silent
  cases step with
  | @turned _ other _ before next events sent there turn =>
    refine ⟨?_, rfl⟩
    have spared := turn.telling.spares session.client
    by_cases here : remote = other
    · subst here
      rw [stored] at there
      cases there
      exact .stays (get?_put_self _ _ _) turn.samePeer.client (turn.room_eq keeps.1)
        turn.telling.stays_identified spared
    · refine .stays ?_ rfl rfl id spared
      rw [roster_enqueue, get?_put, if_neg here, stored]
  | @ended _ other before next cause there ending =>
    refine ⟨?_, rfl⟩
    by_cases here : remote = other
    · subst here
      rw [stored] at there
      cases there
      have client := ending.samePeer.client
      refine .leaves cause ?_ ?_ ?_ fun known => ?_
      · rw [get?_release, if_pos rfl]
      · rw [addressOf?_release, if_pos client.symm]
      · rw [← client, releases_farewellReport, Session.liveRoom?, ending.room_eq,
          Session.liveRoom?]
      · rw [← client]
        exact endings_farewellReport
          ((Session.isIdentified_of_identity_eq ending.identity_eq).trans known)
    · refine .stays ?_ rfl rfl id (spares_farewellReport fun clash => here ?_)
      · rw [get?_release, if_neg here, stored]
      · exact numbered.remote_unique stored there (clash.trans ending.samePeer.client)
  | judged _ => exact ⟨untouched rfl (Report.spares_empty _), rfl⟩
  | noticed _ _ => exact ⟨untouched rfl (Report.spares_empty _), rfl⟩
  | aside _ _ _ _ => exact absurd rfl keeps.2

theorem Course.fate {allowed : Host → Deed → Prop} (numbered : start.Numbered issued)
    (course : Course allowed start report finish)
    (keeps : ∀ host deed, allowed host deed → KeepsSeats deed)
    (stored : start.roster.get? remote = some session) :
    Fate start.rooms remote session report finish.roster := by
  induction course generalizing session with
  | stay => exact .stays stored rfl rfl id (Report.spares_empty _)
  | @step start middle finish _ _ first rest one may course ih =>
    obtain ⟨fate, rooms⟩ := one.fate numbered (keeps _ _ may) stored
    cases fate with
    | stays present client room known spared =>
      cases ih (numbered.of_step one) present with
      | stays present' client' room' known' spared' =>
        rw [client] at spared'
        exact .stays present' (client'.trans client) (room'.trans room) (known' ∘ known)
          (spared.append spared')
      | leaves cause out gone released ended =>
        rw [client] at gone released ended
        refine .leaves cause out gone ?_ fun identified => ?_
        · rw [Report.releases_append, spared.releases, List.nil_append, released, rooms,
            Session.liveRoom?, room, Session.liveRoom?]
        · rw [Report.endings_append, spared.endings, List.nil_append, ended (known identified)]
    | leaves cause out gone released ended =>
      have spared := course.spares (numbered.of_step one) gone
      refine .leaves cause (course.get?_eq_none out) (course.addressOf?_eq_none gone) ?_
        fun identified => ?_
      · rw [Report.releases_append, spared.releases, List.append_nil, released]
      · rw [Report.endings_append, spared.endings, List.append_nil, ended identified]

/-! ## Operations -/

theorem Course.mono {allowed wider : Host → Deed → Prop}
    (course : Course allowed start report finish)
    (h : ∀ host deed, allowed host deed → wider host deed) : Course wider start report finish := by
  induction course with
  | stay endpoint => exact .stay endpoint
  | step one may _ ih => exact .step one (h _ _ may) ih

/-- An operation that seats nobody is an opening and steps that leave alone who sits where;
the rooms may change only behind them. -/
theorem course_of_not_seats (h : start.apply operation = .ok (outcome, finish))
    (other : ¬ operation.Seats) :
    ∃ opened middle, start.Opening operation opened ∧
      Course (fun _ => KeepsSeats) opened outcome.report middle ∧
      finish.roster = middle.roster := by
  have plain (keeps : ∀ deed ∈ operation.deeds, KeepsSeats deed) :
      ∃ opened middle, start.Opening operation opened ∧
        Course (fun _ => KeepsSeats) opened outcome.report middle ∧
        finish.roster = middle.roster := by
    obtain ⟨opened, opening, course⟩ := course_of_apply h
    exact ⟨opened, finish, opening, course.mono fun _ deed may => keeps deed may.2, rfl⟩
  cases operation with
  | attachRoom client room => exact absurd (.inl ⟨client, room, rfl⟩) other
  | detachRoom client => exact absurd (.inr ⟨client, rfl⟩) other
  | sweep now =>
    simp only [apply, Halt.bind_eq_ok, Halt.pure_eq_ok] at h
    obtain ⟨⟨report, finish⟩, swept, h⟩ := h
    cases h
    obtain ⟨middle, visited, rfl⟩ := sweep_eq_ok.mp swept
    exact ⟨start, middle, .known rfl,
      course_sweepAll (fun _ _ => by simp [KeepsSeats]) visited, rfl⟩
  | ensureRoom _ | dropRoom _ | drain =>
    cases h
    exact ⟨start, start, .known rfl, .stay start, rfl⟩
  | _ => exact plain (by simp [Operation.deeds, KeepsSeats])

theorem Opening.rooms_eq (opening : start.Opening operation opened) :
    opened.rooms = start.rooms := by
  cases opening <;> rfl

/-- The sessions sit where the application has put their clients, and only identified
clients have been put anywhere. -/
structure Seated (endpoint : Endpoint) (history : List (Operation × Outcome)) (issued : Nat) :
    Prop where
  numbered : endpoint.Numbered issued
  room : ∀ {remote : Address} {session : Session},
    endpoint.roster.get? remote = some session → session.room = seatOf session.client history
  identified : ∀ {remote : Address} {session : Session},
    endpoint.roster.get? remote = some session → session.room ≠ none →
      session.isIdentified = true
  fresh : ∀ {client : ClientId}, issued < client.value.toNat → seatOf client history = none

theorem seated_create (settings : EndpointSettings) : (create settings).Seated [] 0 where
  numbered := numbered_create settings
  room h := by cases h
  identified h := by cases h
  fresh _ := rfl

/-- A new session sits nowhere. -/
theorem Seated.of_opening (seated : start.Seated history issued)
    (opening : start.Opening operation opened)
    (few : issued + start.openings operation < UInt32.size - 1) :
    opened.Seated history (issued + start.openings operation) := by
  have numbered := seated.numbered.of_opening opening few
  cases opening with
  | known unopened =>
    rw [openings, unopened] at numbered ⊢
    exact ⟨numbered, seated.room, seated.identified, seated.fresh⟩
  | @fresh other bytes now made opens created =>
    have new := Session.create_eq_ok created
    refine ⟨numbered, fun {remote session} stored => ?_, fun {remote session} stored => ?_,
      fun {client} above => seated.fresh (Nat.lt_of_le_of_lt (Nat.le_add_right _ _) above)⟩
    · rw [get?_enrol] at stored
      split at stored
      · cases stored
        rw [new]
        refine (seated.fresh ?_).symm
        rw [seated.numbered.next]
        exact Nat.lt_succ_self issued
      · exact seated.room stored
    · rw [get?_enrol] at stored
      split at stored
      · cases stored
        rw [new]
        exact fun sits => absurd rfl sits
      · exact seated.identified stored

/-- Steps that seat nobody leave everyone in place. -/
theorem Seated.of_course (seated : start.Seated history issued)
    (course : Course (fun _ => KeepsSeats) start report finish) : finish.Seated history issued := by
  have numbered := seated.numbered.of_course course
  have before {remote : Address} {next : Session} (stored : finish.roster.get? remote = some next) :
      ∃ session, start.roster.get? remote = some session ∧ next.client = session.client ∧
        next.room = session.room ∧ (session.isIdentified = true → next.isIdentified = true) := by
    cases found : start.roster.get? remote with
    | none =>
      rw [course.get?_eq_none found] at stored
      cases stored
    | some session =>
      cases course.fate seated.numbered (fun _ _ may => may) found with
      | stays present client room known _ =>
        rw [stored] at present
        cases present
        exact ⟨session, rfl, client, room, known⟩
      | leaves _ out _ _ _ =>
        rw [out] at stored
        cases stored
  refine ⟨numbered, fun {remote next} stored => ?_, fun {remote next} stored sits => ?_,
    seated.fresh⟩
  · obtain ⟨session, found, client, room, -⟩ := before stored
    rw [room, client, seated.room found]
  · obtain ⟨session, found, -, room, known⟩ := before stored
    rw [room] at sits
    exact known (seated.identified found sits)

/-- What a command does that puts a client into a room or takes it out: it is refused, or
only the session of this client changes. -/
theorem seats_of_apply (h : start.apply operation = .ok (outcome, finish))
    (seats : operation.Seats) :
    outcome.report = .empty ∧
      ((finish = start ∧
          ∀ client seat, operation.seatAfter client seat outcome.answer = seat) ∨
        ∃ client remote session seat, start.roster.addressOf? client = some remote ∧
          start.roster.get? remote = some session ∧
          finish = start.put remote { session with room := seat } ∧
          (seat ≠ none → session.isIdentified = true) ∧
          ∀ other old, operation.seatAfter other old outcome.answer =
            if client = other then seat else old) := by
  rcases seats with ⟨client, room, rfl⟩ | ⟨client, rfl⟩
  · simp only [apply, attachRoom] at h
    split at h
    · cases h
      exact ⟨rfl, .inl ⟨rfl, fun _ _ => rfl⟩⟩
    · rename_i remote session found
      obtain ⟨known, stored⟩ := eq_of_find? found
      split at h
      · rename_i identified
        cases h
        exact ⟨rfl, .inr ⟨client, remote, session, some room, known, stored, rfl,
          fun _ => identified, fun _ _ => rfl⟩⟩
      · cases h
        exact ⟨rfl, .inl ⟨rfl, fun _ _ => rfl⟩⟩
  · simp only [apply, detachRoom] at h
    split at h
    · cases h
      exact ⟨rfl, .inl ⟨rfl, fun _ _ => rfl⟩⟩
    · rename_i remote session found
      obtain ⟨known, stored⟩ := eq_of_find? found
      cases h
      exact ⟨rfl, .inr ⟨client, remote, session, none, known, stored, rfl,
        fun none => absurd rfl none, fun _ _ => rfl⟩⟩

theorem Seated.of_apply (seated : start.Seated history issued)
    (h : start.apply operation = .ok (outcome, finish))
    (few : issued + start.openings operation < UInt32.size - 1) :
    finish.Seated (history ++ [(operation, outcome)]) (issued + start.openings operation) := by
  have numbered := seated.numbered.of_apply h few
  by_cases seats : operation.Seats
  · have unopened : start.openings operation = 0 := by
      rcases seats with ⟨client, room, rfl⟩ | ⟨client, rfl⟩ <;> rfl
    rw [unopened] at numbered ⊢
    obtain ⟨-, ⟨rfl, same⟩ | ⟨client, remote, session, seat, known, stored, rfl, identified,
      moved⟩⟩ := seats_of_apply h seats
    · refine ⟨numbered, fun {remote session} stored => ?_, seated.identified,
        fun {client} above => ?_⟩
      · rw [seatOf_append, same, seated.room stored]
      · rw [seatOf_append, same, seated.fresh above]
    · obtain ⟨found, there, rfl⟩ := seated.numbered.known known
      rw [stored] at there
      cases there
      refine ⟨numbered, fun {other found} present => ?_, fun {other found} present sits => ?_,
        fun {client} above => ?_⟩
      · rw [get?_put] at present
        rw [seatOf_append, moved]
        split at present
        · cases present
          rw [if_pos rfl]
        · rename_i elsewhere
          rw [if_neg ?_, seated.room present]
          exact fun clash => elsewhere (seated.numbered.remote_unique present stored clash.symm)
      · rw [get?_put] at present
        split at present
        · cases present
          exact identified sits
        · exact seated.identified present sits
      · have new : session.client ≠ client := by
          rintro rfl
          exact absurd (seated.numbered.issued stored) (Nat.not_le_of_lt above)
        rw [seatOf_append, moved, if_neg new, seated.fresh above]
  · obtain ⟨opened, middle, opening, course, same⟩ := course_of_not_seats h seats
    have after := (seated.of_opening opening few).of_course course
    have kept (client : ClientId) :
        seatOf client (history ++ [(operation, outcome)]) = seatOf client history := by
      rw [seatOf_append, Operation.seatAfter_of_not_seats seats]
    refine ⟨numbered, fun {remote session} stored => ?_, fun {remote session} stored => ?_,
      fun {client} above => ?_⟩
    · rw [kept]
      exact after.room (same ▸ stored)
    · exact after.identified (same ▸ stored)
    · rw [kept]
      exact after.fresh above

/-! ## Who is told -/

/-- What an operation does to a client and tells of it: there was no session, or it stays,
or it ends, and then its room and the application are told. -/
inductive Parting (start : Endpoint) (client : ClientId) (report : Report) (finish : Endpoint) :
    Prop
  | absent :
    start.roster.addressOf? client = none → report.releases client = [] →
    Parting start client report finish
  | stays :
    finish.roster.addressOf? client ≠ none → report.Spares client →
    Parting start client report finish
  | leaves {remote : Address} {session : Session} (cause : DisconnectCause) :
    start.roster.get? remote = some session → session.client = client →
    finish.roster.addressOf? client = none →
    report.releases client =
      (session.liveRoom? start.rooms).toList.map (fun room => ⟨room, client, cause⟩) →
    (session.isIdentified = true →
      report.endings client = [.disconnected client remote cause]) →
    Parting start client report finish

/-- No room is told of a client that comes and goes in one operation. -/
theorem releases_of_absent (numbered : start.Numbered issued)
    (h : start.apply operation = .ok (outcome, finish))
    (few : issued + start.openings operation < UInt32.size - 1)
    (absent : start.roster.addressOf? client = none) : outcome.report.releases client = [] := by
  by_cases seats : operation.Seats
  · rw [(seats_of_apply h seats).1]
    rfl
  obtain ⟨opened, middle, opening, course, -⟩ := course_of_not_seats h seats
  have after := numbered.of_opening opening few
  cases opening with
  | known _ => exact (course.spares after absent).releases
  | @fresh remote bytes now made opens created =>
    by_cases new : client = start.roster.nextClient
    · have session := Session.create_eq_ok created
      have stored : (start.enrol remote made).roster.get? remote = some made :=
        Table.get?_insert_self _ _ _
      have mine : made.client = client := by rw [session, new]
      have nowhere : made.liveRoom? (start.enrol remote made).rooms = none := by
        rw [session]
        rfl
      cases course.fate after (fun _ _ may => may) stored with
      | stays _ _ _ _ spared => exact mine ▸ spared.releases
      | leaves _ _ _ released _ =>
        rw [nowhere, mine] at released
        exact released
    · refine (course.spares after ?_).releases
      rw [addressOf?_enrol, if_neg new, absent]

theorem parting_of_apply (numbered : start.Numbered issued)
    (h : start.apply operation = .ok (outcome, finish))
    (few : issued + start.openings operation < UInt32.size - 1) (client : ClientId) :
    start.Parting client outcome.report finish := by
  cases known : start.roster.addressOf? client with
  | none => exact .absent known (releases_of_absent numbered h few known)
  | some remote =>
    obtain ⟨session, stored, rfl⟩ := numbered.known known
    by_cases seats : operation.Seats
    · obtain ⟨silent, change⟩ := seats_of_apply h seats
      have still : finish.roster.addressOf? session.client = some remote := by
        rcases change with ⟨rfl, -⟩ | ⟨_, _, _, _, _, _, rfl, _⟩
        · exact known
        · exact known
      refine .stays (by simp [still]) ?_
      rw [silent]
      exact Report.spares_empty _
    · obtain ⟨opened, middle, opening, course, same⟩ := course_of_not_seats h seats
      have after := numbered.of_apply h few
      cases course.fate (numbered.of_opening opening few) (fun _ _ may => may)
        (opening.get?_of_get? stored) with
      | stays present client _ _ spared =>
        have found := after.found (same ▸ present)
        rw [client] at found
        exact .stays (by simp [found]) spared
      | leaves cause _ gone released ended =>
        rw [opening.rooms_eq] at released
        exact .leaves cause stored rfl (same ▸ gone) released ended

/-- The client has a session before an operation, and none after it. -/
def Loses (start : Endpoint) (client : ClientId) (finish : Endpoint) : Prop :=
  start.roster.byClient? client ≠ none ∧ finish.roster.byClient? client = none

theorem Numbered.byClient?_eq_none {endpoint : Endpoint} (numbered : endpoint.Numbered issued) :
    endpoint.roster.byClient? client = none ↔ endpoint.roster.addressOf? client = none := by
  rw [Roster.byClient?]
  cases known : endpoint.roster.addressOf? client with
  | none => simp
  | some remote =>
    obtain ⟨session, stored, -⟩ := numbered.known known
    simp [stored]

theorem mem_releases {report : Report} {room : RoomKey} {cause : DisconnectCause} :
    ⟨room, client, cause⟩ ∈ report.detached ↔
      (⟨room, client, cause⟩ : Detachment) ∈ report.releases client := by
  simp [Report.releases]

/-- A room is told of a client exactly if the client has its seat there and is gone with
this operation while the room exists, and then the application is told the same. -/
theorem Seated.released (seated : start.Seated history issued)
    (h : start.apply operation = .ok (outcome, finish))
    (few : issued + start.openings operation < UInt32.size - 1) (client : ClientId)
    (room : RoomKey) :
    ((∃ cause, ⟨room, client, cause⟩ ∈ outcome.report.detached) ↔
      start.Loses client finish ∧ seatOf client history = some room ∧
        start.rooms.exists? room = true) ∧
    ∀ cause, ⟨room, client, cause⟩ ∈ outcome.report.detached →
      ∃ remote, outcome.report.endings client = [.disconnected client remote cause] := by
  have after := seated.numbered.of_apply h few
  simp only [mem_releases, Loses, ne_eq, seated.numbered.byClient?_eq_none,
    after.byClient?_eq_none]
  cases parting_of_apply seated.numbered h few client with
  | absent absent silent => simp [absent, silent]
  | stays still spared => simp [still, spared.releases]
  | @leaves remote session cause stored mine gone released ended =>
    subst mine
    have before := seated.numbered.found stored
    have live : session.liveRoom? start.rooms = some room ↔
        seatOf session.client history = some room ∧ start.rooms.exists? room = true := by
      rw [Session.liveRoom?, seated.room stored, Option.filter_eq_some_iff]
    have told (other : DisconnectCause) :
        (⟨room, session.client, other⟩ : Detachment) ∈ outcome.report.releases session.client ↔
          session.liveRoom? start.rooms = some room ∧ other = cause := by
      rw [released]
      simp [eq_comm]
    refine ⟨?_, fun other among => ?_⟩
    · simp only [told, exists_and_left, exists_eq, and_true, before, gone, reduceCtorEq,
        not_false_eq_true, true_and]
      exact live
    · obtain ⟨sits, rfl⟩ := (told other).mp among
      have room := (live.mp sits).1
      rw [← seated.room stored] at room
      exact ⟨remote, ended (seated.identified stored (by simp [room]))⟩

/-! ## Runs -/

variable {operations : List Operation} {outcomes : List Outcome}

theorem Seated.of_run (seated : start.Seated history issued)
    (ran : start.run operations = .ok (outcomes, finish))
    (few : issued + start.sessionsOpened operations < UInt32.size - 1) :
    finish.Seated (history ++ operations.zip outcomes)
      (issued + start.sessionsOpened operations) := by
  induction operations generalizing start history issued outcomes with
  | nil =>
    cases ran
    rw [List.zip_nil_left, List.append_nil]
    exact seated
  | cons operation rest ih =>
    obtain ⟨outcome, middle, others, applied, later, rfl⟩ := run_cons_eq_ok.mp ran
    rw [sessionsOpened_cons applied, ← Nat.add_assoc] at few ⊢
    have done := ih (seated.of_apply applied (by omega)) later few
    rwa [List.append_assoc, List.singleton_append] at done

/-- Everything that rooms are told of a client in a run. -/
def releasesOf (client : ClientId) (outcomes : List Outcome) : List Detachment :=
  outcomes.flatMap fun outcome => outcome.report.releases client

/-- No room is told again of a client that is gone. -/
theorem releasesOf_of_gone (numbered : start.Numbered issued)
    (given : client.value.toNat ≤ issued) (gone : start.roster.addressOf? client = none)
    (ran : start.run operations = .ok (outcomes, finish))
    (few : issued + start.sessionsOpened operations < UInt32.size - 1) :
    releasesOf client outcomes = [] := by
  induction operations generalizing start issued outcomes with
  | nil =>
    cases ran
    rfl
  | cons operation rest ih =>
    obtain ⟨outcome, middle, others, applied, later, rfl⟩ := run_cons_eq_ok.mp ran
    rw [sessionsOpened_cons applied, ← Nat.add_assoc] at few
    rw [releasesOf, List.flatMap_cons, releases_of_absent numbered applied (by omega) gone]
    exact ih (numbered.of_apply applied (by omega)) (Nat.le_trans given (Nat.le_add_right _ _))
      (numbered.gone_of_apply given gone applied) later few

/-- Rooms are told once at most that a client is gone. -/
theorem length_releasesOf_le (numbered : start.Numbered issued) (client : ClientId)
    (ran : start.run operations = .ok (outcomes, finish))
    (few : issued + start.sessionsOpened operations < UInt32.size - 1) :
    (releasesOf client outcomes).length ≤ 1 := by
  induction operations generalizing start issued outcomes with
  | nil =>
    cases ran
    exact Nat.zero_le 1
  | cons operation rest ih =>
    obtain ⟨outcome, middle, others, applied, later, rfl⟩ := run_cons_eq_ok.mp ran
    rw [sessionsOpened_cons applied, ← Nat.add_assoc] at few
    have after := numbered.of_apply applied (by omega)
    have fewer := ih after later few
    rw [releasesOf, List.flatMap_cons, List.length_append]
    cases parting_of_apply numbered applied (by omega) client with
    | absent _ silent => simpa [silent, releasesOf] using fewer
    | stays _ spared => simpa [spared.releases, releasesOf] using fewer
    | @leaves remote session cause stored mine gone released _ =>
      subst mine
      have given := Nat.le_trans (numbered.issued stored)
        (Nat.le_add_right _ (start.openings operation))
      have silent := releasesOf_of_gone after given gone later few
      rw [releasesOf] at silent
      rw [silent, released, List.length_map, List.length_nil]
      exact Option.length_toList_le

/-- While these operations are done, one of them leads from one state to another, and this
was done before it. -/
def Passes (origin : Endpoint) (operations : List Operation)
    (history : List (Operation × Outcome)) (start : Endpoint) (operation : Operation)
    (outcome : Outcome) (finish : Endpoint) : Prop :=
  ∃ before after told, operations = before ++ operation :: after ∧
    origin.run before = .ok (told, start) ∧ history = before.zip told ∧
    start.apply operation = .ok (outcome, finish)

/-- While these operations are done, the seats of clients are released with their
sessions. -/
structure ReleasesSeats (origin : Endpoint) (operations : List Operation)
    (outcomes : List Outcome) : Prop where
  /-- An operation tells a room of a client exactly if the client has its seat there and is
  gone with this operation, and the room exists. -/
  released : ∀ {history start operation outcome finish},
    origin.Passes operations history start operation outcome finish → ∀ client room,
      (∃ cause, ⟨room, client, cause⟩ ∈ outcome.report.detached) ↔
        start.Loses client finish ∧ seatOf client history = some room ∧
          start.rooms.exists? room = true
  /-- The same operation tells the application once of the same client and cause. -/
  matched : ∀ {history start operation outcome finish},
    origin.Passes operations history start operation outcome finish → ∀ {client room cause},
      ⟨room, client, cause⟩ ∈ outcome.report.detached →
        ∃ remote, outcome.report.endings client = [.disconnected client remote cause]
  once : ∀ client, (releasesOf client outcomes).length ≤ 1

/-- In every run that makes fewer sessions than there are client numbers, a room is told of a
client exactly if the session of the client is removed while the room is the one that the
client was last put into and not taken out of since, and exists. It is told once, and the
same operation tells the application once of the same client and the same cause. -/
theorem seat_released_once {settings : EndpointSettings} {endpoint : Endpoint}
    (returned : (create settings).run operations = .ok (outcomes, endpoint))
    (few : (create settings).sessionsOpened operations < UInt32.size - 1) :
    (create settings).ReleasesSeats operations outcomes := by
  have seated {history : List (Operation × Outcome)} {start finish : Endpoint}
      {operation : Operation} {outcome : Outcome}
      (passes : (create settings).Passes operations history start operation outcome finish) :
      ∃ issued, start.Seated history issued ∧
        start.apply operation = .ok (outcome, finish) ∧
        issued + start.openings operation < UInt32.size - 1 := by
    obtain ⟨before, after, told, rfl, reached, rfl, applied⟩ := passes
    rw [sessionsOpened_append reached, sessionsOpened_cons applied] at few
    have seated := (seated_create settings).of_run reached (by omega)
    rw [List.nil_append, Nat.zero_add] at seated
    exact ⟨_, seated, applied, by omega⟩
  refine ⟨fun passes client room => ?_, fun passes client room cause told => ?_, fun client => ?_⟩
  · obtain ⟨issued, seated, applied, fits⟩ := seated passes
    exact (seated.released applied fits client room).1
  · obtain ⟨issued, seated, applied, fits⟩ := seated passes
    exact (seated.released applied fits client room).2 cause told
  · exact length_releasesOf_le (numbered_create settings) client returned (by rwa [Nat.zero_add])

/-- Two clients greet and are put into a room, one of them is taken out again, and both are
sent away. -/
def emptiedRoom : List Operation :=
  [.datagram (.v4 default 1) [8, 0, 1, 0, 0, 0, 0, 0, 0] 0,
    .datagram (.v4 default 2) [8, 0, 1, 0, 0, 0, 0, 0, 0] 0,
    .ensureRoom "lobby", .attachRoom ⟨1⟩ ⟨0⟩, .attachRoom ⟨2⟩ ⟨0⟩, .detachRoom ⟨2⟩, .shutdown]

theorem seat_released_once_emptiedRoom :
    ∃ outcomes endpoint, (create {}).run emptiedRoom = .ok (outcomes, endpoint) ∧
      (create {}).sessionsOpened emptiedRoom < UInt32.size - 1 ∧
      releasesOf ⟨1⟩ outcomes = [⟨⟨0⟩, ⟨1⟩, .byServer (.plain .serverRequest)⟩] ∧
      releasesOf ⟨2⟩ outcomes = [] ∧
      (create {}).ReleasesSeats emptiedRoom outcomes := by
  have seen : ((create {}).run emptiedRoom).toOption.any (fun result =>
      releasesOf ⟨1⟩ result.1 = [⟨⟨0⟩, ⟨1⟩, .byServer (.plain .serverRequest)⟩] &&
        releasesOf ⟨2⟩ result.1 = []) = true := by
    decide +kernel
  have few : (create {}).sessionsOpened emptiedRoom < UInt32.size - 1 := by decide +kernel
  obtain ⟨⟨outcomes, endpoint⟩, returned, seen⟩ := Halt.exists_of_any seen
  simp only [Bool.and_eq_true, decide_eq_true_eq] at seen
  exact ⟨outcomes, endpoint, returned, few, seen.1, seen.2, seat_released_once returned few⟩

end Endpoint

end SessionLayer
