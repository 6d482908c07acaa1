import SessionLayer.Proofs.Endpoint.Visits

/-!
# The order of visits is not seen

A sweep, a shutdown and a ban take the addresses of the sessions and visit one after the other,
in an order that means nothing. Each of them comes to a tour (`Endpoint.sweepAll_eq_visitAll`,
`Endpoint.atEach_eq_visitAll`), and tours in two orders `Endpoint.Agree`: they leave the same
endpoint but for the datagrams that wait, of which every peer gets the same ones in the same
order, and the application hears the same of every session in the same order.
`Endpoint.order_unseen` says so of all three.
-/

namespace SessionLayer

/-! ## Lists of what each address contributes -/

/-- Of what all contribute, no more than one contributes what passes the test. -/
theorem filter_flatMap_of_unique {α β : Type} [DecidableEq α] {order : List α} {part : α → List β}
    {test : β → Bool} (distinct : order.Nodup) (one : α)
    (others : ∀ other ∈ order, other ≠ one → ∀ item ∈ part other, test item = false) :
    (order.flatMap part).filter test = if one ∈ order then (part one).filter test else [] := by
  induction order with
  | nil => rfl
  | cons first rest ih =>
    obtain ⟨once, distinct⟩ := List.nodup_cons.mp distinct
    rw [List.forall_mem_cons] at others
    rw [List.flatMap_cons, List.filter_append, ih distinct others.2]
    by_cases here : first = one
    · subst here
      simp [once]
    · have silent : (part first).filter test = [] :=
        List.filter_eq_nil_iff.mpr fun item present =>
          Bool.not_eq_true _ ▸ others.1 here item present
      simp [silent, Ne.symm here]

/-- What one address contributes does not depend on the order. -/
theorem filter_flatMap_eq_of_perm {α β : Type} [DecidableEq α] {first second : List α}
    {part : α → List β} {test : β → Bool} (perm : first.Perm second) (distinct : first.Nodup)
    (one : α) (others : ∀ other, other ≠ one → ∀ item ∈ part other, test item = false) :
    (second.flatMap part).filter test = (first.flatMap part).filter test := by
  rw [filter_flatMap_of_unique distinct one fun other _ => others other,
    filter_flatMap_of_unique (perm.nodup_iff.mp distinct) one fun other _ => others other]
  simp only [perm.mem_iff]

/-- No two sessions have this number. -/
def Roster.HeldOnce (roster : Roster) (client : ClientId) : Prop :=
  ∀ first second left right, roster.get? first = some left → roster.get? second = some right →
    left.client = client → right.client = client → first = second

/-- What is told of a visit is told of the session that is visited. -/
def Visiting.Own (visiting : Visiting) : Prop :=
  ∀ settings rooms remote session visit,
    visiting settings rooms remote session = .ok visit →
      ∀ event ∈ visit.report.events, event.client = session.client

/-- What comes of a session that was looked after, and is `next` now. -/
def Visit.ofUpkeep (rooms : RoomTable) (remote : Address) (upkeep : Upkeep) (next : Session) :
    Visit :=
  let released := Report.ofEvents (upkeep.released.map (Event.message next.client · true))
  match upkeep.health with
  | .alive => .stays released next.takeOutgoing.1 next.takeOutgoing.2
  | .unresponsive =>
    let last := (next.disconnect (some (.plain .none))).2
    .ends (released ++ Endpoint.farewellReport rooms remote last .timeout) last
  | .idle => .ends (released ++ Endpoint.farewellReport rooms remote next .timeout) next

namespace Endpoint

variable {start endpoint : Endpoint} {remote : Address} {session : Session} {visiting : Visiting}
  {visits : Address → Visit} {first second : List Address} {one other : Report × Endpoint}
  {now : Instant} {duration : Span}

/-- The datagrams that wait for a peer, in order. -/
def waitingFor (endpoint : Endpoint) (remote : Address) : List Bytes :=
  (endpoint.outgoing.toList.filter (·.1 = remote)).map Prod.snd

/-! ## Two tours -/

/-- What visits in one order come to, and visits in another order, to sessions of this roster. -/
structure Agree (roster : Roster) (first second : List Address) (one other : Report × Endpoint) :
    Prop where
  /-- Only the queue of datagrams may differ. -/
  same : other.2 = { one.2 with outgoing := other.2.outgoing }
  waiting : ∀ remote, other.2.waitingFor remote = one.2.waitingFor remote
  events : other.1.events.Perm one.1.events
  detached : other.1.detached.Perm one.1.detached
  /-- Of each session the same is told, in the same order. -/
  told : ∃ told : Address → List Event,
    one.1.events = first.flatMap told ∧ other.1.events = second.flatMap told ∧
      ∀ remote, ∀ event ∈ told remote,
        ∃ session, roster.get? remote = some session ∧ event.client = session.client
  /-- So it is of each client. -/
  client : ∀ client, roster.HeldOnce client →
    other.1.events.filter (·.client = client) = one.1.events.filter (·.client = client)

theorem own_visitFrom (own : visiting.Own) {event : Event}
    (told : event ∈ (endpoint.visitFrom visiting remote).report.events) :
    ∃ session, endpoint.roster.get? remote = some session ∧ event.client = session.client := by
  cases stored : endpoint.roster.get? remote with
  | none =>
    rw [visitFrom_of_none visiting stored] at told
    cases told
  | some session =>
    refine ⟨session, rfl, ?_⟩
    cases decided : visiting endpoint.settings endpoint.rooms remote session with
    | error halt =>
      rw [visitFrom, outcomeAt_of_get? stored, decided] at told
      cases told
    | ok visit =>
      rw [visitFrom_of_get? stored decided] at told
      exact own _ _ _ _ _ decided event told

theorem waitingFor_tour (distinct : first.Nodup) (visits : Address → Visit) (endpoint : Endpoint)
    (remote : Address) :
    (tour visits first endpoint).2.waitingFor remote =
      endpoint.waitingFor remote ++ if remote ∈ first then (visits remote).sent else [] := by
  have others : ∀ other ∈ first, other ≠ remote →
      ∀ item ∈ (visits other).sent.map fun bytes => (other, bytes),
        decide (item.1 = remote) = false := by
    intro other _ elsewhere item sent
    obtain ⟨bytes, -, rfl⟩ := List.mem_map.mp sent
    exact decide_eq_false elsewhere
  rw [waitingFor, toList_tour, List.filter_append, List.map_append,
    filter_flatMap_of_unique distinct remote others]
  congr 1
  split
  · simp [List.filter_map, Function.comp_def]
  · rfl

theorem sessions_tour_eq_of_perm (perm : first.Perm second) (distinct : first.Nodup)
    (known : ∀ remote, visits remote ≠ .nobody → start.roster.get? remote ≠ none) :
    (tour visits second start).2.roster.sessions = (tour visits first start).2.roster.sessions := by
  have kept : ∀ remote report sent next, visits remote = .stays report sent next →
      start.roster.get? remote ≠ none :=
    fun remote report sent next stays => known remote (by rw [stays]; nofun)
  apply Table.ext_get?
  · have one := addresses_tour distinct fun remote _ => kept remote
    have other := addresses_tour (perm.nodup_iff.mp distinct) fun remote _ => kept remote
    simp only [perm.mem_iff] at one
    exact other.trans one.symm
  · intro remote
    have one := get?_tour distinct visits start remote
    have other := get?_tour (perm.nodup_iff.mp distinct) visits start remote
    simp only [perm.mem_iff] at one
    exact other.trans one.symm

theorem clients_tour_eq_of_perm (perm : first.Perm second) :
    (tour visits second start).2.roster.clients = (tour visits first start).2.roster.clients := by
  apply Table.ext_entries
  rw [clients_tour, clients_tour]
  simp only [perm.mem_iff]

/-- Tours in two orders agree. -/
theorem agree_tour (perm : first.Perm second) (distinct : first.Nodup)
    (known : ∀ remote, visits remote ≠ .nobody → start.roster.get? remote ≠ none)
    (own : ∀ remote, ∀ event ∈ (visits remote).report.events,
      ∃ session, start.roster.get? remote = some session ∧ event.client = session.client) :
    Agree start.roster first second (tour visits first start) (tour visits second start) where
  same := by
    rw [tour_frame visits second, tour_frame visits first]
    simp only [sessions_tour_eq_of_perm perm distinct known, clients_tour_eq_of_perm perm]
  waiting remote := by
    rw [waitingFor_tour distinct, waitingFor_tour (perm.nodup_iff.mp distinct)]
    simp only [perm.mem_iff]
  events := by
    rw [events_tour, events_tour]
    exact (perm.flatMap_right _).symm
  detached := by
    rw [detached_tour, detached_tour]
    exact (perm.flatMap_right _).symm
  told := ⟨_, events_tour .., events_tour .., own⟩
  client client once := by
    rw [events_tour, events_tour]
    by_cases held : ∃ remote session, start.roster.get? remote = some session ∧
        session.client = client
    · -- Only at its own address is this client told of, so that nothing can be told in between.
      obtain ⟨remote, session, stored, same⟩ := held
      refine filter_flatMap_eq_of_perm perm distinct remote fun other elsewhere event told => ?_
      obtain ⟨found, present, about⟩ := own other event told
      refine decide_eq_false fun mine => elsewhere ?_
      exact once _ _ _ _ present stored (about.symm.trans mine) same
    · have nothing (order : List Address) :
          (order.flatMap fun remote => (visits remote).report.events).filter
            (·.client = client) = [] := by
        refine List.filter_eq_nil_iff.mpr fun event told mine => held ?_
        obtain ⟨remote, -, told⟩ := List.mem_flatMap.mp told
        obtain ⟨session, stored, about⟩ := own remote event told
        exact ⟨remote, session, stored, about.symm.trans (of_decide_eq_true mine)⟩
      rw [nothing, nothing]

/-- All visits return in one order if they do in another. -/
theorem visitAll_returns_iff_of_perm (visiting : Visiting) (start : Endpoint)
    (perm : first.Perm second) (distinct : first.Nodup) :
    (∃ one, visitAll visiting first start = .ok one) ↔
      ∃ other, visitAll visiting second start = .ok other := by
  simp only [visitAll_eq_ok_iff distinct, visitAll_eq_ok_iff (perm.nodup_iff.mp distinct),
    perm.mem_iff, exists_and_left, exists_eq', and_true]

/-- Visits in two orders agree. -/
theorem agree_visitAll (own : visiting.Own) (perm : first.Perm second) (distinct : first.Nodup)
    (returned : visitAll visiting first start = .ok one)
    (also : visitAll visiting second start = .ok other) :
    Agree start.roster first second one other := by
  obtain ⟨-, rfl⟩ := (visitAll_eq_ok_iff distinct).mp returned
  obtain ⟨-, rfl⟩ := (visitAll_eq_ok_iff (perm.nodup_iff.mp distinct)).mp also
  refine agree_tour perm distinct (fun remote somebody absent => ?_) fun remote event told =>
    own_visitFrom own told
  exact somebody (visitFrom_of_none visiting absent)

/-! ## Sessions that are ended -/

/-- A session is ended with a farewell. -/
def parting (farewell : EndpointSettings → Session → Farewell)
    (cause : Farewell → DisconnectCause) : Visiting :=
  fun settings rooms remote session =>
    let last := (session.disconnect (some (farewell settings session))).2
    .ok (.ends (farewellReport rooms remote last (cause (farewell settings session))) last)

theorem own_parting (farewell : EndpointSettings → Session → Farewell)
    (cause : Farewell → DisconnectCause) : (parting farewell cause).Own := by
  rintro settings rooms remote session _ ⟨⟩ event told
  rw [(client_of_farewellReport rooms remote _ _).1 event told]
  exact (Session.samePeer_disconnect session _).client

theorem visitAt_parting (endpoint : Endpoint) (remote : Address)
    (farewell : EndpointSettings → Session → Farewell) (cause : Farewell → DisconnectCause)
    {told : Farewell} (same : ∀ session, endpoint.roster.get? remote = some session →
      told = farewell endpoint.settings session) :
    endpoint.visitAt (parting farewell cause) remote = .ok (endpoint.close remote told cause) := by
  unfold visitAt outcomeAt
  cases stored : endpoint.roster.get? remote with
  | none =>
    rw [close_of_none stored]
    rfl
  | some session =>
    rw [close_of_get? stored, same session stored]
    rfl

/-- What is done at one address after the other are visits, if it is a visit at each. -/
theorem atEach_eq_visitAll {operation : Endpoint → Address → Report × Endpoint}
    (each : ∀ (endpoint : Endpoint) (remote : Address),
      endpoint.visitAt visiting remote = .ok (operation endpoint remote))
    (order : List Address) (endpoint : Endpoint) :
    visitAll visiting order endpoint = .ok (endpoint.atEach order operation) := by
  induction order generalizing endpoint with
  | nil => rfl
  | cons remote rest ih =>
    rw [visitAll, each, atEach_cons]
    simp only [bind, Except.bind, ih, pure, Except.pure]

theorem visitAt_closeForShutdown (endpoint : Endpoint) (remote : Address) :
    endpoint.visitAt (parting (fun _ _ => .plain .serverRequest) .byServer) remote =
      .ok (endpoint.closeForShutdown remote) :=
  visitAt_parting endpoint remote _ _ fun _ _ => rfl

/-- What a client is told whose host is banned. -/
def bannedFarewell (duration : Span) (settings : EndpointSettings) (session : Session) :
    Farewell :=
  match session.localize settings.penalty.banMessage settings.defaultLocale
      [duration.describe] with
  | some message => ⟨.banned, some message⟩
  | none => .plain .error

theorem visitAt_closeBanned (duration : Span) (endpoint : Endpoint) (remote : Address) :
    endpoint.visitAt (parting (bannedFarewell duration) .banned) remote =
      .ok (closeBanned duration endpoint remote) := by
  refine visitAt_parting endpoint remote _ _ fun session stored => ?_
  simp only [localizedFarewell, stored]
  rfl

/-! ## Sweeps -/

/-- A session is looked after. -/
def tending (now : Instant) : Visiting := fun _ rooms remote session => do
  let (upkeep, next) ← session.maintain now
  return Visit.ofUpkeep rooms remote upkeep next

theorem visitAt_tending (endpoint : Endpoint) (remote : Address) (now : Instant) :
    endpoint.visitAt (tending now) remote = endpoint.sweepAt remote now := by
  unfold visitAt outcomeAt sweepAt
  cases endpoint.roster.get? remote with
  | none => rfl
  | some session =>
    simp only [tending]
    cases session.maintain now with
    | error halt => rfl
    | ok result =>
      obtain ⟨upkeep, next⟩ := result
      simp only [bind, Except.bind, pure, Except.pure, Visit.ofUpkeep]
      cases upkeep.health with
      | alive =>
        simp only [flush_put]
        rfl
      | unresponsive | idle =>
        simp only [teardown_of_get? (get?_put_self _ _ _), release_put]
        rfl

theorem own_tending (now : Instant) : (tending now).Own := by
  intro settings rooms remote session visit decided event told
  simp only [tending, Halt.bind_eq_ok, Halt.pure_eq_ok] at decided
  obtain ⟨⟨upkeep, next⟩, looked, rfl⟩ := decided
  have same : next.client = session.client := (Session.looking looked).samePeer.client
  have released : ∀ event ∈ upkeep.released.map (Event.message next.client · true),
      event.client = session.client := by
    intro event told
    obtain ⟨payload, -, rfl⟩ := List.mem_map.mp told
    exact same
  have parted (last : Session) (known : last.client = session.client) :
      ∀ event ∈ (Report.ofEvents (upkeep.released.map (Event.message next.client · true)) ++
        farewellReport rooms remote last .timeout).events, event.client = session.client := by
    intro event told
    rcases List.mem_append.mp told with told | told
    · exact released event told
    · exact ((client_of_farewellReport rooms remote last _).1 event told).trans known
  cases health : upkeep.health with
  | alive =>
    simp only [Visit.ofUpkeep, health] at told
    exact released event told
  | unresponsive =>
    simp only [Visit.ofUpkeep, health] at told
    exact parted _ ((Session.samePeer_disconnect next _).client.trans same) event told
  | idle =>
    simp only [Visit.ofUpkeep, health] at told
    exact parted _ same event told

theorem sweepAll_eq_visitAll (now : Instant) (order : List Address) (endpoint : Endpoint) :
    sweepAll now order endpoint = visitAll (tending now) order endpoint := by
  induction order generalizing endpoint with
  | nil => rfl
  | cons remote rest ih =>
    rw [sweepAll, visitAll, visitAt_tending]
    simp only [ih]

/-- A sweep returns if each session can be looked after, and comes to a tour before it purges
the penalties. -/
theorem sweepInOrder_eq_ok_iff {order : List Address} {result : Report × Endpoint} :
    endpoint.sweepInOrder order now = .ok result ↔
      ∃ swept, visitAll (tending now) order endpoint = .ok swept ∧
        (swept.1, { swept.2 with
          penalties := (swept.2.penalties.purgeExpired now).2 }) = result := by
  rw [sweepInOrder, sweepAll_eq_visitAll, Halt.bind_eq_ok]
  simp only [Halt.pure_eq_ok]

/-- A shutdown that ends the sessions in the given order. -/
def shutdownInOrder (endpoint : Endpoint) (order : List Address) : Report × Endpoint :=
  endpoint.atEach order closeForShutdown

theorem shutdown_eq (endpoint : Endpoint) :
    endpoint.shutdown = endpoint.shutdownInOrder endpoint.roster.addresses := rfl

/-- Ends the sessions of a host that is banned, where the addresses of all sessions are taken in
the given order. -/
def disconnectBannedInOrder (endpoint : Endpoint) (order : List Address) (host : Host)
    (duration : Span) : Report × Endpoint :=
  endpoint.atEach (order.filter fun remote => remote.host = host) (closeBanned duration)

theorem disconnectBanned_eq (endpoint : Endpoint) (host : Host) (duration : Span) :
    endpoint.disconnectBanned host duration =
      endpoint.disconnectBannedInOrder endpoint.roster.addresses host duration := rfl

/-! ## Any two orders -/

theorem agree_atEach {operation : Endpoint → Address → Report × Endpoint}
    (each : ∀ (endpoint : Endpoint) (remote : Address),
      endpoint.visitAt visiting remote = .ok (operation endpoint remote))
    (own : visiting.Own) (perm : first.Perm second) (distinct : first.Nodup)
    (endpoint : Endpoint) :
    Agree endpoint.roster first second (endpoint.atEach first operation)
      (endpoint.atEach second operation) :=
  agree_visitAll own perm distinct (atEach_eq_visitAll each first endpoint)
    (atEach_eq_visitAll each second endpoint)

theorem agree_sweepInOrder (perm : first.Perm second) (distinct : first.Nodup)
    (swept : endpoint.sweepInOrder first now = .ok one)
    (also : endpoint.sweepInOrder second now = .ok other) :
    Agree endpoint.roster first second one other := by
  obtain ⟨one, returned, rfl⟩ := sweepInOrder_eq_ok_iff.mp swept
  obtain ⟨other, again, rfl⟩ := sweepInOrder_eq_ok_iff.mp also
  have agree := agree_visitAll (own_tending now) perm distinct returned again
  exact { agree with same := by rw [agree.same] }

/-- What a sweep leaves of a session comes of looking after it once. -/
theorem tended_of_sweepInOrder {order : List Address} (distinct : order.Nodup)
    (swept : endpoint.sweepInOrder order now = .ok one) (visited : remote ∈ order)
    (stored : endpoint.roster.get? remote = some session) :
    ∃ upkeep next, session.maintain now = .ok (upkeep, next) ∧
      one.2.roster.get? remote =
        (if upkeep.health = .alive then some next.takeOutgoing.2 else none) ∧
      one.2.waitingFor remote = endpoint.waitingFor remote ++
        (Visit.ofUpkeep endpoint.rooms remote upkeep next).sent := by
  obtain ⟨one, returned, rfl⟩ := sweepInOrder_eq_ok_iff.mp swept
  obtain ⟨decided, rfl⟩ := (visitAll_eq_ok_iff distinct).mp returned
  obtain ⟨visit, decided⟩ := decided remote visited
  rw [outcomeAt_of_get? stored] at decided
  have visits := visitFrom_of_get? stored decided
  simp only [tending, Halt.bind_eq_ok, Halt.pure_eq_ok] at decided
  obtain ⟨⟨upkeep, next⟩, looked, rfl⟩ := decided
  refine ⟨upkeep, next, looked, ?_, ?_⟩
  · refine (get?_tour distinct _ endpoint remote).trans ?_
    rw [if_pos visited, visits, Visit.ofUpkeep]
    cases upkeep.health <;> rfl
  · refine (waitingFor_tour distinct _ endpoint remote).trans ?_
    rw [if_pos visited, visits]

/-- As long as fewer numbers were given out than there are, each is held by one session. -/
theorem heldOnce_of_run {settings : EndpointSettings} {operations : List Operation}
    {outcomes : List Outcome} (ran : (create settings).run operations = .ok (outcomes, endpoint))
    (few : (create settings).sessionsOpened operations < UInt32.size - 1) (client : ClientId) :
    endpoint.roster.HeldOnce client := by
  intro first second left right atFirst atSecond one other
  have numbered := (numbered_create settings).of_run ran (by rwa [Nat.zero_add])
  exact numbered.remote_unique atFirst atSecond (one.trans other.symm)

/-- For every endpoint and every two orders of the addresses of its sessions: A sweep returns in
one order if it does in the other, and then both agree, and what is left of every session comes
of looking after it once. A shutdown in either order agrees with one in the other, and so do
the ways to end the sessions of a host that is banned. No two sessions have the same number, if
not more were made than there are numbers. -/
theorem order_unseen (now : Instant) (one : first.Perm endpoint.roster.addresses)
    (other : second.Perm endpoint.roster.addresses) :
    ((∃ swept, endpoint.sweepInOrder first now = .ok swept) ↔
      ∃ also, endpoint.sweepInOrder second now = .ok also) ∧
    (∀ swept also, endpoint.sweepInOrder first now = .ok swept →
      endpoint.sweepInOrder second now = .ok also →
        Agree endpoint.roster first second swept also ∧
        ∀ remote session, endpoint.roster.get? remote = some session →
          ∃ upkeep next, session.maintain now = .ok (upkeep, next) ∧
            swept.2.roster.get? remote =
              (if upkeep.health = .alive then some next.takeOutgoing.2 else none) ∧
            swept.2.waitingFor remote = endpoint.waitingFor remote ++
              (Visit.ofUpkeep endpoint.rooms remote upkeep next).sent) ∧
    Agree endpoint.roster first second (endpoint.shutdownInOrder first)
      (endpoint.shutdownInOrder second) ∧
    (∀ penalties host duration,
      Agree endpoint.roster (first.filter fun remote => remote.host = host)
        (second.filter fun remote => remote.host = host)
        ({ endpoint with penalties }.disconnectBannedInOrder first host duration)
        ({ endpoint with penalties }.disconnectBannedInOrder second host duration)) ∧
    ∀ settings operations outcomes,
      (create settings).run operations = .ok (outcomes, endpoint) →
      (create settings).sessionsOpened operations < UInt32.size - 1 →
        ∀ client, endpoint.roster.HeldOnce client := by
  have distinct : first.Nodup := one.nodup_iff.mpr endpoint.roster.sessions.nodup_keys
  have perm : first.Perm second := one.trans other.symm
  refine ⟨?_, fun swept also returned again => ⟨?_, fun remote session stored => ?_⟩, ?_, ?_, ?_⟩
  · have returns := visitAll_returns_iff_of_perm (tending now) endpoint perm distinct
    simp only [sweepInOrder_eq_ok_iff]
    constructor
    · rintro ⟨_, swept, returned, rfl⟩
      obtain ⟨also, again⟩ := returns.mp ⟨swept, returned⟩
      exact ⟨_, also, again, rfl⟩
    · rintro ⟨_, also, again, rfl⟩
      obtain ⟨swept, returned⟩ := returns.mpr ⟨also, again⟩
      exact ⟨_, swept, returned, rfl⟩
  · exact agree_sweepInOrder perm distinct returned again
  · exact tended_of_sweepInOrder distinct returned
      (one.mem_iff.mpr (Table.mem_keys_of_get? stored)) stored
  · exact agree_atEach visitAt_closeForShutdown (own_parting _ _) perm distinct endpoint
  · intro penalties host duration
    exact agree_atEach (visitAt_closeBanned duration) (own_parting _ _) (perm.filter _)
      (distinct.filter _) { endpoint with penalties }
  · exact fun settings operations outcomes ran few => heldOnce_of_run ran few

/-- Some peer of one host. -/
def peerAt (port : UInt16) : Address := .v4 default port

/-- Two peers that greet, and one that only acknowledges something. -/
def threePeers : List Operation :=
  [.datagram (peerAt 1) [8, 0, 1, 0, 0, 0, 0, 0, 0] 0,
    .datagram (peerAt 2) [8, 0, 1, 0, 0, 0, 0, 0, 0] 0, .datagram (peerAt 3) [10, 0, 1, 255] 0,
    .drain]

/-- After a while the third peer is given up, the others are sent pings, and both hear of a
shutdown. -/
theorem order_unseen_threePeers :
    ∃ outcomes endpoint swept also,
      (create {}).run threePeers = .ok (outcomes, endpoint) ∧
      [peerAt 1, peerAt 2, peerAt 3].Perm endpoint.roster.addresses ∧
      [peerAt 3, peerAt 2, peerAt 1].Perm endpoint.roster.addresses ∧
      endpoint.sweepInOrder [peerAt 1, peerAt 2, peerAt 3] (Span.ofSeconds 100) = .ok swept ∧
      endpoint.sweepInOrder [peerAt 3, peerAt 2, peerAt 1] (Span.ofSeconds 100) = .ok also ∧
      Agree endpoint.roster [peerAt 1, peerAt 2, peerAt 3] [peerAt 3, peerAt 2, peerAt 1]
        swept also ∧
      swept.2.roster.addresses = [peerAt 1, peerAt 2] ∧
      swept.2.outgoing.toList = [(peerAt 1, [12, 0, 1]), (peerAt 2, [12, 0, 1])] ∧
      also.2.outgoing.toList = [(peerAt 2, [12, 0, 1]), (peerAt 1, [12, 0, 1])] ∧
      (endpoint.shutdownInOrder [peerAt 3, peerAt 2, peerAt 1]).1.events.map Event.client =
        [⟨2⟩, ⟨1⟩] ∧
      Agree endpoint.roster [peerAt 1, peerAt 2, peerAt 3] [peerAt 3, peerAt 2, peerAt 1]
        (endpoint.shutdownInOrder [peerAt 1, peerAt 2, peerAt 3])
        (endpoint.shutdownInOrder [peerAt 3, peerAt 2, peerAt 1]) := by
  have seen : ((create {}).run threePeers).toOption.any (fun ran =>
      (ran.2.sweepInOrder [peerAt 1, peerAt 2, peerAt 3] (Span.ofSeconds 100)).toOption.any
        fun swept =>
      (ran.2.sweepInOrder [peerAt 3, peerAt 2, peerAt 1] (Span.ofSeconds 100)).toOption.any
        fun also =>
          ran.2.roster.addresses = [peerAt 1, peerAt 2, peerAt 3] &&
          swept.2.roster.addresses = [peerAt 1, peerAt 2] &&
          swept.2.outgoing.toList = [(peerAt 1, [12, 0, 1]), (peerAt 2, [12, 0, 1])] &&
          also.2.outgoing.toList = [(peerAt 2, [12, 0, 1]), (peerAt 1, [12, 0, 1])] &&
          (ran.2.shutdownInOrder [peerAt 3, peerAt 2, peerAt 1]).1.events.map Event.client =
            [⟨2⟩, ⟨1⟩]) = true := by
    decide +kernel
  obtain ⟨⟨outcomes, endpoint⟩, ran, seen⟩ := Halt.exists_of_any seen
  obtain ⟨swept, returned, seen⟩ := Halt.exists_of_any seen
  obtain ⟨also, again, seen⟩ := Halt.exists_of_any seen
  simp only [Bool.and_eq_true, decide_eq_true_eq] at seen
  obtain ⟨⟨⟨⟨peers, left⟩, sent⟩, sentAlso⟩, told⟩ := seen
  have one : [peerAt 1, peerAt 2, peerAt 3].Perm endpoint.roster.addresses :=
    peers ▸ List.Perm.refl _
  have other : [peerAt 3, peerAt 2, peerAt 1].Perm endpoint.roster.addresses := by
    rw [peers]
    decide
  obtain ⟨-, sweeps, shutdowns, -⟩ := order_unseen (Span.ofSeconds 100) one other
  exact ⟨outcomes, endpoint, swept, also, ran, one, other, returned, again,
    (sweeps swept also returned again).1, left, sent, sentAlso, told, shutdowns⟩

end Endpoint

end SessionLayer
