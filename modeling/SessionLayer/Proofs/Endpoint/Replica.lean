import SessionLayer.Proofs.Endpoint.Numbering

/-!
# What an application learns from events

An application that notes every client when it is identified and strikes it out when
it is gone keeps a list of clients and addresses (`replay`). While numbers are not
given out twice, this list is at every moment the list of the registered sessions
whose client has said who it is, and the events about one client tell its life in
order: `Endpoint.events_replicate_roster`.

The invariant is `Endpoint.Told`. What a session tells in one turn is one of three
things (`Telling`), and what is told when it ends depends on its identity alone.
-/

namespace SessionLayer

/-! ## Events about one client -/

/-- How far the life of a client has come. -/
inductive Standing
  | unheard
  | present
  | gone
  deriving DecidableEq

/-- The events about one client in the order of its life: it is identified, sends
messages, and is gone. -/
inductive Chronicle : Standing → List Event → Prop
  | unheard : Chronicle .unheard []
  | identified (client : ClientId) (remote : Address) (identity : ClientIdentity) :
    Chronicle .present [.identified client remote identity]
  | message {events : List Event} (client : ClientId) (payload : Payload) (reliable : Bool) :
    Chronicle .present events → Chronicle .present (events ++ [.message client payload reliable])
  | disconnected {events : List Event} (client : ClientId) (remote : Address)
      (cause : DisconnectCause) :
    Chronicle .present events →
    Chronicle .gone (events ++ [.disconnected client remote cause])

/-- The events about one client. -/
def eventsAbout (client : ClientId) (events : List Event) : List Event :=
  events.filter fun event => event.client = client

/-- What an application notes of an event that keeps a list of clients. -/
def Event.note (listed : List (ClientId × Address)) : Event → List (ClientId × Address)
  | .identified client remote _ => (client, remote) :: listed
  | .message _ _ _ => listed
  | .disconnected client remote _ => listed.filter (· ≠ (client, remote))

/-- The list of clients after these events. -/
def replay (events : List Event) : List (ClientId × Address) := events.foldl Event.note []

theorem eventsAbout_append (client : ClientId) (first second : List Event) :
    eventsAbout client (first ++ second) =
      eventsAbout client first ++ eventsAbout client second :=
  List.filter_append ..

theorem replay_append (first second : List Event) :
    replay (first ++ second) = second.foldl Event.note (replay first) :=
  List.foldl_append ..

theorem eventsAbout_messagesOf (client other : ClientId) (bodies : List (Payload × Bool)) :
    eventsAbout other (messagesOf client bodies) =
      if client = other then messagesOf client bodies else [] := by
  induction bodies with
  | nil => simp [messagesOf, eventsAbout]
  | cons body rest ih =>
    simp only [eventsAbout, messagesOf, List.map_cons, List.filter_cons, Event.client] at ih ⊢
    rw [ih]
    by_cases same : client = other <;> simp [same]

theorem foldl_note_messagesOf (listed : List (ClientId × Address)) (client : ClientId)
    (bodies : List (Payload × Bool)) : (messagesOf client bodies).foldl Event.note listed = listed := by
  induction bodies with
  | nil => rfl
  | cons body rest ih => exact ih

theorem Chronicle.messages {events : List Event} (chronicle : Chronicle .present events)
    (client : ClientId) (bodies : List (Payload × Bool)) :
    Chronicle .present (events ++ messagesOf client bodies) := by
  induction bodies generalizing events with
  | nil => simpa [messagesOf] using chronicle
  | cons body rest ih =>
    have more := ih (chronicle.message client body.1 body.2)
    rwa [List.append_assoc] at more

/-! ## The events of one turn -/

/-- How a session in this state stands with the application. -/
def Session.standing (session : Session) : Standing :=
  if session.isIdentified then .present else .unheard

/-- The life of a client goes on with what its session tells in a turn. -/
theorem Telling.chronicle {remote : Address} {session next : Session} {log events : List Event}
    (telling : Telling remote session next events)
    (before : Chronicle session.standing (eventsAbout session.client log)) :
    Chronicle next.standing (eventsAbout session.client (log ++ events)) := by
  rw [eventsAbout_append]
  cases telling with
  | nothing kept =>
    rw [Session.standing, kept, ← Session.standing]
    simpa [eventsAbout] using before
  | identified identity unknown known =>
    rw [Session.standing, unknown] at before
    rw [Session.standing, if_pos known]
    have silent : eventsAbout session.client log = [] := by
      generalize eventsAbout session.client log = events at before
      cases before
      rfl
    rw [silent, List.nil_append]
    simpa [eventsAbout, Event.client] using
      Chronicle.identified session.client remote identity
  | messages bodies known known' =>
    rw [Session.standing, if_pos known] at before
    rw [Session.standing, if_pos known', eventsAbout_messagesOf, if_pos rfl]
    exact before.messages session.client bodies

theorem Telling.about_other {remote : Address} {session next : Session} {events : List Event}
    (telling : Telling remote session next events) {client : ClientId}
    (other : client ≠ session.client) : eventsAbout client events = [] := by
  cases telling with
  | nothing _ => rfl
  | identified identity _ _ => simp [eventsAbout, Event.client, Ne.symm other]
  | messages bodies _ _ => rw [eventsAbout_messagesOf, if_neg (Ne.symm other)]

theorem Telling.stays_identified {remote : Address} {session next : Session}
    {events : List Event} (telling : Telling remote session next events)
    (known : session.isIdentified = true) : next.isIdentified = true := by
  cases telling with
  | nothing kept => exact kept.trans known
  | identified _ unknown _ => simp [known] at unknown
  | messages _ _ known' => exact known'

theorem Telling.mem_replay {remote : Address} {session next : Session} {log events : List Event}
    (telling : Telling remote session next events)
    (before : (session.client, remote) ∈ replay log ↔ session.isIdentified = true)
    (client : ClientId) (other : Address) :
    (client, other) ∈ replay (log ++ events) ↔
      (client, other) ∈ replay log ∨
        (client = session.client ∧ other = remote ∧ next.isIdentified = true) := by
  rw [replay_append]
  cases telling with
  | nothing kept =>
    refine ⟨.inl, ?_⟩
    rintro (h | ⟨rfl, rfl, known⟩)
    · exact h
    · exact before.mpr (kept.symm.trans known)
  | identified identity _ known =>
    simp only [List.foldl_cons, List.foldl_nil, Event.note, List.mem_cons, Prod.mk.injEq]
    constructor
    · rintro (⟨rfl, rfl⟩ | h)
      · exact .inr ⟨rfl, rfl, known⟩
      · exact .inl h
    · rintro (h | ⟨rfl, rfl, -⟩)
      · exact .inr h
      · exact .inl ⟨rfl, rfl⟩
  | messages bodies known _ =>
    rw [foldl_note_messagesOf]
    refine ⟨.inl, ?_⟩
    rintro (h | ⟨rfl, rfl, -⟩)
    · exact h
    · exact before.mpr known

namespace Endpoint

variable {issued : Nat}

/-! ## The invariant -/

/-- These events tell how the endpoint came to be what it is. -/
structure Told (log : List Event) (issued : Nat) (endpoint : Endpoint) : Prop where
  numbered : endpoint.Numbered issued
  chronicle : ∀ client, ∃ standing, Chronicle standing (eventsAbout client log)
  standing : ∀ {remote : Address} {session : Session},
    endpoint.roster.get? remote = some session →
      Chronicle session.standing (eventsAbout session.client log)
  fresh : ∀ {client : ClientId}, issued < client.value.toNat → eventsAbout client log = []
  listed : ∀ client remote, (client, remote) ∈ replay log ↔
    ∃ session, endpoint.roster.get? remote = some session ∧ session.client = client ∧
      session.isIdentified = true

theorem told_create (settings : EndpointSettings) : (Endpoint.create settings).Told [] 0 where
  numbered := numbered_create settings
  chronicle _ := ⟨_, .unheard⟩
  standing h := by cases h
  fresh _ := rfl
  listed client remote := by
    constructor
    · intro h
      cases h
    · rintro ⟨session, found, -⟩
      cases found

/-- Of one session the list holds just its own client, once that is identified. -/
theorem Told.listed_self {log : List Event} {endpoint : Endpoint}
    (told : endpoint.Told log issued) {remote : Address} {session : Session}
    (stored : endpoint.roster.get? remote = some session) :
    (session.client, remote) ∈ replay log ↔ session.isIdentified = true := by
  rw [told.listed]
  constructor
  · rintro ⟨found, hfound, -, known⟩
    rw [stored] at hfound
    cases hfound
    exact known
  · intro known
    exact ⟨session, stored, rfl, known⟩

/-- A session in its next state, after what it told. -/
theorem Told.put {log events : List Event} {endpoint : Endpoint}
    (told : endpoint.Told log issued) {remote : Address} {session next : Session}
    (stored : endpoint.roster.get? remote = some session) (same : session.SamePeer next)
    (telling : Telling remote session next events) :
    (endpoint.put remote next).Told (log ++ events) issued where
  numbered := told.numbered.put stored same
  chronicle client := by
    by_cases mine : client = session.client
    · subst mine
      exact ⟨_, telling.chronicle (told.standing stored)⟩
    · rw [eventsAbout_append, telling.about_other mine, List.append_nil]
      exact told.chronicle client
  standing {other found} h := by
    rw [get?_put] at h
    split at h
    · cases h
      rw [same.client]
      exact telling.chronicle (told.standing stored)
    · rename_i elsewhere
      have different : found.client ≠ session.client := fun clash =>
        elsewhere (told.numbered.remote_unique h stored clash)
      rw [eventsAbout_append, telling.about_other different, List.append_nil]
      exact told.standing h
  fresh {client} above := by
    have different : client ≠ session.client := by
      rintro rfl
      exact absurd (told.numbered.issued stored) (Nat.not_le_of_lt above)
    rw [eventsAbout_append, telling.about_other different, told.fresh above]
    rfl
  listed client other := by
    rw [telling.mem_replay (told.listed_self stored), told.listed]
    by_cases here : other = remote
    · subst here
      simp only [get?_put_self, Option.some.injEq, exists_eq_left', stored, same.client]
      constructor
      · rintro (⟨rfl, known⟩ | ⟨rfl, -, known⟩)
        · exact ⟨rfl, telling.stays_identified known⟩
        · exact ⟨rfl, known⟩
      · rintro ⟨rfl, known⟩
        exact .inr ⟨rfl, trivial, known⟩
    · rw [get?_put, if_neg here]
      simp only [here, false_and, and_false, or_false]

/-- A session that is taken out, after its end was told. -/
theorem Told.release {log : List Event} {endpoint : Endpoint} (told : endpoint.Told log issued)
    {remote : Address} {session next : Session} {cause : DisconnectCause}
    (stored : endpoint.roster.get? remote = some session) (same : session.SamePeer next)
    (kept : next.isIdentified = session.isIdentified) :
    (endpoint.release remote next).Told
      (log ++ (farewellReport endpoint.rooms remote next cause).events) issued := by
  rw [events_farewellReport, kept, same.client]
  have others {client : ClientId} (other : client ≠ session.client) :
      eventsAbout client (if session.isIdentified = true then
        [Event.disconnected session.client remote cause] else []) = [] := by
    split <;> simp [eventsAbout, Event.client, Ne.symm other]
  refine ⟨told.numbered.release stored same, fun client => ?_, fun {other found} h => ?_,
    fun {client} above => ?_, fun client other => ?_⟩
  · by_cases mine : client = session.client
    · subst mine
      have before := told.standing stored
      rw [eventsAbout_append]
      cases known : session.isIdentified with
      | false => exact ⟨_, by simpa [eventsAbout] using before⟩
      | true =>
        rw [Session.standing, if_pos known] at before
        exact ⟨_, by simpa [eventsAbout, Event.client] using
          Chronicle.disconnected session.client remote cause before⟩
    · rw [eventsAbout_append, others mine, List.append_nil]
      exact told.chronicle client
  · rw [get?_release] at h
    split at h
    · cases h
    rename_i elsewhere
    have different : found.client ≠ session.client := fun clash =>
      elsewhere (told.numbered.remote_unique h stored clash)
    rw [eventsAbout_append, others different, List.append_nil]
    exact told.standing h
  · have different : client ≠ session.client := by
      rintro rfl
      exact absurd (told.numbered.issued stored) (Nat.not_le_of_lt above)
    rw [eventsAbout_append, others different, told.fresh above]
    rfl
  · have mine := told.listed_self stored
    rw [replay_append]
    by_cases here : other = remote
    · subst here
      have unknown : client ≠ session.client → (client, other) ∉ replay log := by
        intro different listed
        obtain ⟨found, hfound, rfl, -⟩ := (told.listed ..).mp listed
        rw [stored] at hfound
        cases hfound
        exact different rfl
      simp only [get?_release, if_true, reduceCtorEq, false_and, exists_false, iff_false]
      by_cases same' : client = session.client
      · subst same'
        cases known : session.isIdentified with
        | false => simpa [known] using mine
        | true => simp [Event.note]
      · cases session.isIdentified <;> simp [Event.note, unknown same']
    · rw [get?_release, if_neg here, ← told.listed]
      cases session.isIdentified <;> simp [Event.note, here]

theorem Told.congr {log : List Event} {first second : Endpoint} (told : first.Told log issued)
    (same : second.roster = first.roster) : second.Told log issued where
  numbered := told.numbered.congr same
  chronicle := told.chronicle
  standing h := told.standing (same ▸ h)
  fresh := told.fresh
  listed := by
    rw [same]
    exact told.listed

theorem Told.of_step {host : Host} {deed : Deed} {start finish : Endpoint} {report : Report}
    {log : List Event} (told : start.Told log issued)
    (step : Step host deed start report finish) : finish.Told (log ++ report.events) issued := by
  cases step with
  | turned stored turn => exact (told.put stored turn.samePeer turn.telling).congr rfl
  | ended stored ending =>
    exact told.release stored ending.samePeer
      (Session.isIdentified_of_identity_eq ending.identity_eq)
  | judged _ =>
    rw [Report.events_empty, List.append_nil]
    exact told.congr rfl
  | noticed remote notice =>
    rw [Report.events_empty, List.append_nil]
    exact told.congr rfl
  | aside host book queue rooms =>
    rw [Report.events_empty, List.append_nil]
    exact told.congr rfl

theorem Told.of_course {allowed : Host → Deed → Prop} {start finish : Endpoint}
    {report : Report} {log : List Event} (told : start.Told log issued)
    (course : Course allowed start report finish) :
    finish.Told (log ++ report.events) issued := by
  induction course generalizing log with
  | stay =>
    rw [Report.events_empty, List.append_nil]
    exact told
  | step one _ _ ih =>
    rw [Report.events_append, ← List.append_assoc]
    exact ih (told.of_step one)

/-- A new session has not told anything. -/
theorem Told.enrol {log : List Event} {endpoint : Endpoint} (told : endpoint.Told log issued)
    {remote : Address} {session : Session} (absent : endpoint.roster.get? remote = none)
    (client : session.client = endpoint.roster.nextClient) (here : session.remote = remote)
    (unknown : session.isIdentified = false) (room : issued + 1 < UInt32.size - 1) :
    (endpoint.enrol remote session).Told log (issued + 1) where
  numbered := told.numbered.enrol absent client here room
  chronicle := told.chronicle
  standing {other found} h := by
    rw [get?_enrol] at h
    split at h
    · cases h
      have silent : eventsAbout session.client log = [] := by
        apply told.fresh
        rw [client, told.numbered.next]
        exact Nat.lt_succ_self issued
      rw [Session.standing, unknown, silent]
      exact .unheard
    · exact told.standing h
  fresh above := told.fresh (Nat.lt_of_succ_lt above)
  listed who other := by
    rw [told.listed]
    by_cases same : other = remote
    · subst same
      simp [absent, get?_enrol, unknown]
    · rw [get?_enrol, if_neg same]

theorem Told.of_apply {start finish : Endpoint} {operation : Operation} {outcome : Outcome}
    {log : List Event} (told : start.Told log issued)
    (h : start.apply operation = .ok (outcome, finish))
    (room : issued + start.openings operation < UInt32.size - 1) :
    finish.Told (log ++ outcome.report.events) (issued + start.openings operation) := by
  obtain ⟨opened, opening, course⟩ := course_of_apply h
  refine Told.of_course ?_ course
  cases opening with
  | known unopened => simpa [openings, unopened] using told
  | fresh opens made =>
    rw [openings, if_pos opens] at room ⊢
    have session := Session.create_eq_ok made
    exact told.enrol (get?_of_opens opens) (by rw [session]) (by rw [session])
      (by rw [session]; rfl) room

theorem Told.of_run {start finish : Endpoint} {operations : List Operation}
    {outcomes : List Outcome} {log : List Event} (told : start.Told log issued)
    (h : start.run operations = .ok (outcomes, finish))
    (room : issued + start.sessionsOpened operations < UInt32.size - 1) :
    finish.Told (log ++ eventsOf outcomes) (issued + start.sessionsOpened operations) := by
  induction operations generalizing start outcomes log issued with
  | nil =>
    cases h
    simpa [eventsOf, sessionsOpened] using told
  | cons operation rest ih =>
    obtain ⟨outcome, middle, others, first, returned, rfl⟩ := run_cons_eq_ok.mp h
    rw [sessionsOpened_cons first, ← Nat.add_assoc] at room ⊢
    have after := ih (told.of_apply first (by omega)) returned room
    rwa [List.append_assoc] at after

/-- While fewer numbers are given out than there are, the events about every client
tell its life in order, and the list that an application keeps from all events is the
list of the registered sessions with an identity. Every part of a run from its start
is a run, so this holds after every operation. -/
theorem events_replicate_roster {settings : EndpointSettings} {operations : List Operation}
    {outcomes : List Outcome} {endpoint : Endpoint}
    (returned : (Endpoint.create settings).run operations = .ok (outcomes, endpoint))
    (few : (Endpoint.create settings).sessionsOpened operations < UInt32.size - 1) :
    (∀ client, ∃ standing, Chronicle standing (eventsAbout client (eventsOf outcomes))) ∧
      ∀ client remote, (client, remote) ∈ replay (eventsOf outcomes) ↔
        ∃ session, endpoint.roster.get? remote = some session ∧ session.client = client ∧
          session.isIdentified = true := by
  have told := (told_create settings).of_run returned (by rwa [Nat.zero_add])
  exact ⟨told.chronicle, told.listed⟩

/-- A client greets, sends a message and leaves, and another one greets. -/
def briefVisit : List Operation :=
  [.datagram (.v4 default 1) [8, 0, 1, 0, 0, 0, 0, 0, 0] 0,
    .datagram (.v4 default 1) [0] 0,
    .datagram (.v4 default 1) [9] 0,
    .datagram (.v4 default 2) [8, 0, 1, 0, 0, 0, 0, 0, 0] 0]

theorem events_replicate_roster_briefVisit :
    ∃ outcomes endpoint, (Endpoint.create {}).run briefVisit = .ok (outcomes, endpoint) ∧
      (Endpoint.create {}).sessionsOpened briefVisit < UInt32.size - 1 ∧
      (eventsAbout ⟨1⟩ (eventsOf outcomes)).length = 3 ∧
      (∃ standing, Chronicle standing (eventsAbout ⟨1⟩ (eventsOf outcomes))) ∧
      ∀ client remote, (client, remote) ∈ replay (eventsOf outcomes) ↔
        ∃ session, endpoint.roster.get? remote = some session ∧ session.client = client ∧
          session.isIdentified = true := by
  obtain ⟨⟨outcomes, endpoint⟩, returned⟩ :=
    Halt.exists_of_isSome ((Endpoint.create {}).run briefVisit) (by decide +kernel)
  have few : (Endpoint.create {}).sessionsOpened briefVisit < UInt32.size - 1 := by
    decide +kernel
  have three : (((Endpoint.create {}).run briefVisit).toOption.map fun result =>
      (eventsAbout ⟨1⟩ (eventsOf result.1)).length) = some 3 := by decide +kernel
  rw [returned] at three
  obtain ⟨lives, listed⟩ := events_replicate_roster returned few
  exact ⟨outcomes, endpoint, returned, few, Option.some.inj three, lives ⟨1⟩, listed⟩

end Endpoint

end SessionLayer
