import SessionLayer.Proofs.Endpoint.Portion

/-!
# The image of an operation

An endpoint that mirrors the portion of a host (`Endpoint.Mirror`) goes on mirroring it
when both sides do the same operations. An operation that concerns the host
(`Endpoint.concerns`) has its image on the other side: it is done to the client with the
other number, returns where the original returns, and what comes of it is the portion of
what comes of the original (`Mirror.of_apply`). Any other operation is not seen
(`Mirror.of_apply_elsewhere`).
-/

namespace SessionLayer

/-- The operation with its client under another number. -/
def Operation.renamed (naming : ClientId → ClientId) : Operation → Operation
  | .send client payload reliable now => .send (naming client) payload reliable now
  | .disconnect client farewell => .disconnect (naming client) farewell
  | .disconnectLocalized client reason text args =>
    .disconnectLocalized (naming client) reason text args
  | .attachRoom client room => .attachRoom (naming client) room
  | .detachRoom client => .detachRoom (naming client)
  | .datagram remote bytes now => .datagram remote bytes now
  | .ban host duration now => .ban host duration now
  | .unban host => .unban host
  | .sweep now => .sweep now
  | .shutdown => .shutdown
  | .ensureRoom name => .ensureRoom name
  | .dropRoom name => .dropRoom name
  | .drain => .drain

/-- The datagrams that an answer hands out. -/
def Answer.datagrams : Answer → List (Address × Bytes)
  | .drained datagrams => datagrams
  | _ => []

/-- What an answer says to someone who knows only one host. -/
def Answer.portion (host : Host) (naming : ClientId → ClientId) : Answer → Answer
  | .refused fault => .refused (fault.renamed naming)
  | .drained datagrams => .drained (datagrams.filter fun item => item.1.host = host)
  | .done => .done
  | .sent sequence => .sent sequence
  | .flag value => .flag value
  | .room key => .room key

/-- What comes of an operation for someone who knows only one host. -/
def Outcome.portion (host : Host) (mine : List ClientId) (naming : ClientId → ClientId)
    (outcome : Outcome) : Outcome :=
  ⟨outcome.answer.portion host naming, outcome.report.portion mine naming⟩

namespace Endpoint

/-- Whether an operation concerns a host: it comes from there, is about it or about a
client that is found there, or concerns everybody. -/
def concerns (endpoint : Endpoint) (host : Host) : Operation → Bool
  | .datagram remote _ _ => remote.host = host
  | .send client _ _ _ | .disconnect client _ | .disconnectLocalized client _ _ _
  | .attachRoom client _ | .detachRoom client =>
    (endpoint.roster.addressOf? client).any fun remote => remote.host = host
  | .ban banned _ _ | .unban banned => banned = host
  | .sweep _ | .shutdown | .ensureRoom _ | .dropRoom _ | .drain => true

variable {host : Host} {mine : List ClientId} {naming : ClientId → ClientId}
  {full part : Endpoint} {remote : Address} {session next : Session}

/-- Where one computation returns, the other returns alike. -/
def Follows (host : Host) (mine : List ClientId) (naming : ClientId → ClientId)
    (full part : Except Halt (Report × Endpoint)) : Prop :=
  ∀ result, full = .ok result → ∃ image, part = .ok image ∧ Alike host mine naming result image

/-! ## Outcomes -/

theorem portion_ofReport (report : Report) :
    (Outcome.ofReport report).portion host mine naming = .ofReport (report.portion mine naming) :=
  rfl

theorem portion_ofUnit (result : Except SessionFault Unit) :
    (Outcome.ofUnit result).portion host mine naming =
      .ofUnit (result.mapError (SessionFault.renamed naming)) := by
  cases result <;> rfl

theorem portion_ofSent (result : Except SessionFault (Option Sequence)) :
    (Outcome.ofSent result).portion host mine naming =
      .ofSent (result.mapError (SessionFault.renamed naming)) := by
  cases result <;> rfl

theorem Alike.outcome {full part : Report × Endpoint} (alike : Alike host mine naming full part) :
    Outcome.ofReport part.1 = (Outcome.ofReport full.1).portion host mine naming := by
  rw [portion_ofReport, alike.report]

/-- What an operation that only reports has for its outcome follows as its report does. -/
theorem Follows.outcome {full part : Except Halt (Report × Endpoint)} {outcome : Outcome}
    {finish : Endpoint} (follows : Follows host mine naming full part)
    (h : (full >>= fun told => pure (Outcome.ofReport told.1, told.2)) = .ok (outcome, finish)) :
    ∃ image, (part >>= fun told => pure (Outcome.ofReport told.1, told.2)) =
        .ok (outcome.portion host mine naming, image) ∧
      finish.Mirror host mine naming image := by
  obtain ⟨told, returned, h⟩ := Halt.bind_eq_ok.mp h
  cases h
  obtain ⟨image, imaged, alike⟩ := follows told returned
  exact ⟨image.2, Halt.bind_eq_ok.mpr ⟨image, imaged, by rw [alike.outcome]; rfl⟩, alike.mirror⟩

/-! ## Sessions that end -/

theorem portion_farewellReport (own : session.client ∈ mine) (rooms : RoomTable)
    (remote : Address) (cause : DisconnectCause) :
    (farewellReport rooms remote session cause).portion mine naming =
      farewellReport rooms remote (session.renamed naming) cause := by
  obtain ⟨events, detached⟩ := client_of_farewellReport rooms remote session cause
  rw [Report.portion_of_mem own events detached]
  simp only [farewellReport, List.map_map, Session.isIdentified_renamed,
    Session.client_renamed, Session.liveRoom?_renamed, Report.mk.injEq]
  refine ⟨?_, rfl⟩
  by_cases known : session.isIdentified = true
  · rw [if_pos known]
    exact (if_pos known).symm
  · rw [if_neg known]
    exact (if_neg known).symm

/-- A session of the host that ends, ends alike on the other side. -/
theorem Mirror.ended (mirror : full.Mirror host mine naming part)
    (injective : Function.Injective naming) (here : remote.host = host)
    (stored : full.roster.get? remote = some session) (same : session.SamePeer next)
    (cause : DisconnectCause) :
    Alike host mine naming
      (farewellReport full.rooms remote next cause, full.release remote next)
      (farewellReport part.rooms remote (next.renamed naming) cause,
        part.release remote (next.renamed naming)) where
  report := by
    have own : next.client ∈ mine := same.client ▸ (mirror.owned remote session stored).mpr here
    simp only [portion_farewellReport own, mirror.rooms]
  mirror := mirror.release injective here next

theorem Mirror.close (mirror : full.Mirror host mine naming part)
    (injective : Function.Injective naming) (here : remote.host = host) (farewell : Farewell)
    (cause : Farewell → DisconnectCause) :
    Alike host mine naming (full.close remote farewell cause)
      (part.close remote farewell cause) := by
  cases stored : full.roster.get? remote with
  | none =>
    rw [close_of_none stored, close_of_none (mirror.get?_none here stored)]
    exact ⟨rfl, mirror⟩
  | some session =>
    rw [close_of_get? stored, close_of_get? (mirror.get? here stored),
      Session.disconnect_renamed]
    exact mirror.ended injective here stored (session.samePeer_disconnect _) (cause farewell)

theorem Mirror.localizedFarewell (mirror : full.Mirror host mine naming part)
    (here : remote.host = host) (reason : DisconnectReason) (text : LocalizedText)
    (args : List String) :
    part.localizedFarewell remote reason text args =
      full.localizedFarewell remote reason text args := by
  unfold Endpoint.localizedFarewell
  rw [mirror.settings, mirror.sessions remote here]
  cases full.roster.get? remote <;> rfl

/-- A session that is stored only to be taken out. -/
theorem Mirror.teardown_put (mirror : full.Mirror host mine naming part)
    (injective : Function.Injective naming) (here : remote.host = host)
    (stored : full.roster.get? remote = some session) (same : session.SamePeer next)
    (cause : DisconnectCause) :
    Alike host mine naming ((full.put remote next).teardown remote cause)
      ((part.put remote (next.renamed naming)).teardown remote cause) := by
  rw [teardown_of_get? (get?_put_self _ _ _), teardown_of_get? (get?_put_self _ _ _),
    release_put, release_put]
  exact mirror.ended injective here stored same cause

/-- One address after the other: at those of the host both sides do alike, at the others
nothing is seen. -/
theorem Mirror.atEach (mirror : full.Mirror host mine naming part)
    (operation : Endpoint → Address → Report × Endpoint)
    (inside : ∀ {full part : Endpoint} {remote : Address}, full.Mirror host mine naming part →
      remote.host = host → Alike host mine naming (operation full remote) (operation part remote))
    (outside : ∀ {full : Endpoint} {remote : Address}, remote.host ≠ host →
      Course (fun other deed => other ≠ host ∧ deed ≠ .aside) full (operation full remote).1
        (operation full remote).2)
    (addresses : List Address) :
    Alike host mine naming (full.atEach addresses operation)
      (part.atEach (addresses.filter fun remote => remote.host = host) operation) := by
  induction addresses generalizing full part with
  | nil => exact ⟨rfl, mirror⟩
  | cons remote rest ih =>
    rw [atEach_cons]
    by_cases here : remote.host = host
    · rw [List.filter_cons_of_pos (by simpa using here), atEach_cons]
      have first := inside mirror here
      have others := ih first.mirror
      exact ⟨by rw [Report.portion_append, first.report, others.report], others.mirror⟩
    · rw [List.filter_cons_of_neg (by simpa using here)]
      obtain ⟨unseen, kept⟩ := mirror.of_course (outside here) fun _ _ fits => fits
      have others := ih kept
      exact ⟨by rw [Report.portion_append, unseen, Report.empty_append, others.report],
        others.mirror⟩

theorem Mirror.disconnectBanned (mirror : full.Mirror host mine naming part)
    (injective : Function.Injective naming) (duration : Span) :
    Alike host mine naming (full.disconnectBanned host duration)
      (part.disconnectBanned host duration) := by
  have each {full part : Endpoint} {remote : Address} (mirror : full.Mirror host mine naming part)
      (here : remote.host = host) :
      Alike host mine naming (closeBanned duration full remote)
        (closeBanned duration part remote) := by
    unfold closeBanned
    rw [mirror.localizedFarewell here, mirror.settings]
    exact mirror.close injective here _ _
  have all := mirror.atEach (closeBanned duration) each
    (fun elsewhere => course_close (fun _ => .banned _) ⟨elsewhere, by simp⟩ _)
    (full.roster.addresses.filter fun remote => remote.host = host)
  have same : part.roster.addresses.filter (fun remote => remote.host = host) =
      (full.roster.addresses.filter fun remote => remote.host = host).filter
        fun remote => remote.host = host := by
    rw [mirror.addresses]
  rw [Endpoint.disconnectBanned, Endpoint.disconnectBanned, same]
  exact all

theorem Mirror.ban (mirror : full.Mirror host mine naming part)
    (injective : Function.Injective naming) (duration : Span) (now : Instant) :
    Follows host mine naming (full.ban host duration now) (part.ban host duration now) := by
  intro result h
  simp only [Endpoint.ban, Halt.bind_eq_ok] at h ⊢
  obtain ⟨book, noted, h⟩ := h
  obtain ⟨image, imaged, alike⟩ := mirror.penalties.ban noted
  have judged : { full with penalties := book }.Mirror host mine naming
      { part with penalties := image } := { mirror with penalties := alike }
  cases h
  exact ⟨_, ⟨image, imaged, rfl⟩, judged.disconnectBanned injective duration⟩

theorem Mirror.unban (mirror : full.Mirror host mine naming part) :
    (part.unban host).1 = (full.unban host).1 ∧
      (full.unban host).2.Mirror host mine naming (part.unban host).2 := by
  obtain ⟨lifted, alike⟩ := mirror.penalties.unban
  exact ⟨lifted, { mirror with penalties := alike }⟩

theorem Mirror.shutdown (mirror : full.Mirror host mine naming part)
    (injective : Function.Injective naming) :
    Alike host mine naming full.shutdown part.shutdown := by
  have all := mirror.atEach closeForShutdown
    (fun mirror here => mirror.close injective here _ _)
    (fun elsewhere => course_close (fun _ => .byServer _) ⟨elsewhere, by simp⟩ _)
    full.roster.addresses
  rwa [← mirror.addresses] at all

/-! ## Datagrams from the host -/

theorem eventOf?_renamed (remote : Address) (session : Session) :
    eventOf? remote (session.renamed naming) =
      fun inbound => (eventOf? remote session inbound).map (Event.renamed naming) := by
  funext inbound
  cases inbound with
  | identified =>
    show session.identity.map _ = (session.identity.map _).map _
    rw [Option.map_map]
    rfl
  | deliver payload reliable => rfl
  | peerLeft farewell => rfl

theorem client_of_eventOf? {inbound : Inbound} {event : Event}
    (h : eventOf? remote session inbound = some event) : event.client = session.client := by
  cases inbound with
  | identified =>
    obtain ⟨identity, _, rfl⟩ := Option.map_eq_some_iff.mp h
    rfl
  | deliver payload reliable =>
    cases h
    rfl
  | peerLeft farewell => cases h

theorem portion_inbound (own : session.client ∈ mine) (remote : Address)
    (inbound : List Inbound) :
    (Report.ofEvents (inbound.filterMap (eventOf? remote session))).portion mine naming =
      .ofEvents (inbound.filterMap (eventOf? remote (session.renamed naming))) := by
  have client : ∀ event ∈ inbound.filterMap (eventOf? remote session),
      event.client = session.client := fun event told => by
    obtain ⟨item, _, told⟩ := List.mem_filterMap.mp told
    exact client_of_eventOf? told
  rw [Report.portion_of_mem own client fun _ told => by cases told]
  rw [eventOf?_renamed]
  simp only [Report.ofEvents, List.map_filterMap, List.map_nil]

theorem Mirror.dispatch (mirror : full.Mirror host mine naming part)
    (injective : Function.Injective naming) (here : remote.host = host)
    (stored : full.roster.get? remote = some session) (packet : Packet) (now : Instant) :
    Alike host mine naming (full.dispatch remote session packet now)
      (part.dispatch remote (session.renamed naming) packet now) := by
  have same := session.samePeer_handlePacket packet now
  have own : (session.handlePacket packet now).2.client ∈ mine :=
    same.client ▸ (mirror.owned remote session stored).mpr here
  have image : ((session.renamed naming).handlePacket packet now).1 =
      (session.handlePacket packet now).1 := by
    rw [Session.handlePacket_renamed]
  cases left : peerFarewell? (session.handlePacket packet now).1 with
  | none =>
    rw [dispatch_of_stays left, dispatch_of_stays (image ▸ left), Session.handlePacket_renamed]
    exact ⟨(portion_inbound own remote _).symm,
      (mirror.put here stored same.takeOutgoing).enqueue here _⟩
  | some farewell =>
    rw [dispatch_of_leaves left, dispatch_of_leaves (image ▸ left), Session.handlePacket_renamed]
    exact mirror.ended injective here stored same (.byPeer farewell)

theorem Mirror.penalize (mirror : full.Mirror host mine naming part)
    (injective : Function.Injective naming) (here : remote.host = host) (now : Instant) :
    Follows host mine naming (full.penalize remote now) (part.penalize remote now) := by
  rintro ⟨report, finish⟩ h
  subst here
  simp only [Endpoint.penalize, Halt.bind_eq_ok] at h ⊢
  rcases h with ⟨⟨verdict, book⟩, recorded, h⟩
  obtain ⟨image, imaged, alike⟩ := mirror.penalties.recordOffense recorded
  have judged : { full with penalties := book }.Mirror remote.host mine naming
      { part with penalties := image } := { mirror with penalties := alike }
  cases verdict with
  | disconnect =>
    have spoken := judged.localizedFarewell rfl .custom
      full.settings.penalty.disconnectMessage []
    have closed := judged.close injective rfl ({ full with penalties := book }.localizedFarewell
      remote .custom full.settings.penalty.disconnectMessage []) .rateLimited
    simp only [Halt.pure_eq_ok] at h
    rw [h] at closed
    refine ⟨_, ⟨_, imaged, ?_⟩, closed⟩
    simp only [mirror.settings]
    rw [← spoken, ← mirror.settings]
    rfl
  | ban duration =>
    have closed := judged.disconnectBanned injective duration
    simp only [Halt.pure_eq_ok] at h
    rw [h] at closed
    exact ⟨_, ⟨_, imaged, rfl⟩, closed⟩

theorem Mirror.handleKnown (mirror : full.Mirror host mine naming part)
    (injective : Function.Injective naming) (here : remote.host = host)
    (stored : full.roster.get? remote = some session) (kind : PacketKind) (bytes : Bytes)
    (now : Instant) :
    Follows host mine naming (full.handleKnown remote kind bytes now)
      (part.handleKnown remote kind bytes now) := by
  rintro ⟨report, finish⟩ h
  simp only [Endpoint.handleKnown, Roster.lookupOrCreate, stored, mirror.get? here stored,
    Halt.bind_eq_ok] at h ⊢
  rcases h with ⟨_, known, ⟨decision, checked⟩, returned, h⟩
  cases known
  simp only at returned h
  have kept := mirror.put here stored (Session.samePeer_checkRate returned)
  suffices rest : ∃ image, _ = Except.ok image ∧ Alike host mine naming (report, finish) image by
    rcases rest with ⟨image, ends, alike⟩
    exact ⟨image, ⟨_, rfl, _, Session.checkRate_renamed returned, ends⟩, alike⟩
  cases decision with
  | drop warnings =>
    cases h
    exact ⟨_, rfl, rfl, kept⟩
  | penalize => exact kept.penalize injective here now _ h
  | accept =>
    simp only at h ⊢
    split at h
    · cases h
      exact ⟨_, rfl, rfl, kept⟩
    · rename_i packet _
      have handed := kept.dispatch injective here (get?_put_self _ _ _) packet now
      have same : (full.put remote checked).dispatch remote checked packet now =
          (report, finish) := Halt.pure_eq_ok.mp h
      rw [same] at handed
      exact ⟨_, rfl, handed⟩

theorem Mirror.rejectBanned (mirror : full.Mirror host mine naming part)
    (here : remote.host = host) (bytes : Bytes) (remaining : Span) :
    (full.rejectBanned remote bytes remaining).Mirror host mine naming
      (part.rejectBanned remote bytes remaining) := by
  have same : part.banNotice (helloLocale? bytes) remaining =
      full.banNotice (helloLocale? bytes) remaining := by
    rw [banNotice, mirror.settings]
    rfl
  unfold Endpoint.rejectBanned
  rw [same]
  simp only
  split
  · exact mirror.enqueue here _
  · exact mirror

theorem Mirror.onBanned (mirror : full.Mirror host mine naming part)
    (here : remote.host = host) (bytes : Bytes) (remaining : Span) (now : Instant) :
    (full.onBanned remote bytes remaining now).Mirror host mine naming
      (part.onBanned remote bytes remaining now) := by
  subst here
  obtain ⟨granted, alike⟩ := mirror.penalties.grantNotice now
  have noted : { full with penalties := (full.penalties.grantNotice remote.host now).2 }.Mirror
      remote.host mine naming
      { part with penalties := (part.penalties.grantNotice remote.host now).2 } :=
    { mirror with penalties := alike }
  unfold Endpoint.onBanned
  split
  · simp only [granted]
    split
    · exact noted.rejectBanned rfl bytes remaining
    · exact noted
  · exact mirror

theorem Mirror.admits (mirror : full.Mirror host mine naming part) (here : remote.host = host)
    (bytes : Bytes) (now : Instant) :
    part.admits remote bytes now = full.admits remote bytes now := by
  subst here
  rw [Endpoint.admits, Endpoint.admits, mirror.settings, mirror.penalties.banRemaining]

/-- A datagram that makes a session makes one on the other side, where its client gets
the number that `naming` gives to it. -/
theorem Mirror.handleKnown_of_new (mirror : full.Mirror host mine naming part)
    (injective : Function.Injective naming) (here : remote.host = host)
    (absent : full.roster.get? remote = none) (own : full.roster.nextClient ∈ mine)
    (number : naming full.roster.nextClient = part.roster.nextClient) (kind : PacketKind)
    (bytes : Bytes) (now : Instant) :
    Follows host mine naming (full.handleKnown remote kind bytes now)
      (part.handleKnown remote kind bytes now) := by
  intro result h
  rw [handleKnown_of_none absent, Halt.bind_eq_ok] at h
  rcases h with ⟨session, made, h⟩
  have client : session.client = full.roster.nextClient := by rw [Session.create_eq_ok made]
  have enrolled := mirror.enrol injective here absent own client number
  obtain ⟨image, ends, alike⟩ :=
    enrolled.handleKnown injective here (Table.get?_insert_self _ _ _) kind bytes now _ h
  refine ⟨image, ?_, alike⟩
  rw [handleKnown_of_none (mirror.get?_none here absent), Halt.bind_eq_ok, ← number,
    mirror.usual, mirror.flood]
  exact ⟨_, Session.create_renamed made, ends⟩

theorem Mirror.handleDatagram (mirror : full.Mirror host mine naming part)
    (injective : Function.Injective naming) (here : remote.host = host) (bytes : Bytes)
    (now : Instant)
    (new : full.opens (.datagram remote bytes now) = true →
      full.roster.nextClient ∈ mine ∧ naming full.roster.nextClient = part.roster.nextClient) :
    Follows host mine naming (full.handleDatagram remote bytes now)
      (part.handleDatagram remote bytes now) := by
  subst here
  cases passes : full.admits remote bytes now with
  | false =>
    intro result h
    unfold Endpoint.handleDatagram at h ⊢
    rw [mirror.settings, mirror.penalties.banRemaining]
    split at h
    · rename_i large
      rw [if_pos large]
      cases h
      exact ⟨_, rfl, rfl, mirror⟩
    rename_i fits
    rw [if_neg fits]
    split at h
    · rename_i remaining banned
      cases h
      exact ⟨_, rfl, rfl, mirror.onBanned rfl bytes remaining now⟩
    · rename_i free
      split at h
      · cases h
        exact ⟨_, rfl, rfl, mirror⟩
      · rename_i kind peeked
        simp [Endpoint.admits, free, peeked, Except.toOption] at passes
        omega
  | true =>
    have image := (mirror.admits rfl bytes now).trans passes
    obtain ⟨kind, peeked, same⟩ := handleDatagram_of_admits passes
    obtain ⟨_, peeked', same'⟩ := handleDatagram_of_admits image
    cases peeked.symm.trans peeked'
    rw [same, same']
    cases stored : full.roster.get? remote with
    | some session => exact mirror.handleKnown injective rfl stored kind bytes now
    | none =>
      obtain ⟨own, number⟩ := new (by simp [opens, stored, passes])
      exact mirror.handleKnown_of_new injective rfl stored own number kind bytes now

/-! ## Sweeps -/

theorem portion_released {client : ClientId} (own : client ∈ mine) (payloads : List Payload) :
    (Report.ofEvents (payloads.map (Event.message client · true))).portion mine naming =
      .ofEvents (payloads.map (Event.message (naming client) · true)) := by
  have about : ∀ event ∈ payloads.map (Event.message client · true), event.client = client := by
    intro event told
    obtain ⟨payload, _, rfl⟩ := List.mem_map.mp told
    rfl
  rw [Report.portion_of_mem own about fun _ told => by cases told]
  simp only [Report.ofEvents, List.map_map, List.map_nil]
  rfl

theorem Mirror.sweepAt (mirror : full.Mirror host mine naming part)
    (injective : Function.Injective naming) (here : remote.host = host) (now : Instant) :
    Follows host mine naming (full.sweepAt remote now) (part.sweepAt remote now) := by
  intro result h
  unfold Endpoint.sweepAt at h ⊢
  cases stored : full.roster.get? remote with
  | none =>
    rw [stored] at h
    rw [mirror.get?_none here stored]
    cases h
    exact ⟨_, rfl, rfl, mirror⟩
  | some session =>
    rw [stored] at h
    rw [mirror.get? here stored]
    simp only [Halt.bind_eq_ok] at h ⊢
    rcases h with ⟨⟨upkeep, next⟩, returned, h⟩
    have same := (Session.looking returned).samePeer
    have own : next.client ∈ mine := same.client ▸ (mirror.owned remote session stored).mpr here
    have released : (Report.ofEvents (upkeep.released.map
        (Event.message next.client · true))).portion mine naming = _ :=
      portion_released own upkeep.released
    suffices rest : ∃ image, _ = Except.ok image ∧ Alike host mine naming result image by
      rcases rest with ⟨image, ends, alike⟩
      exact ⟨image, ⟨_, Session.maintain_renamed returned, ends⟩, alike⟩
    cases health : upkeep.health with
    | alive =>
      simp only [health, flush_put] at h ⊢
      cases h
      exact ⟨_, rfl, released.symm, (mirror.put here stored same.takeOutgoing).enqueue here _⟩
    | unresponsive =>
      simp only [health, Session.disconnect_renamed] at h ⊢
      cases h
      have left := same.trans (next.samePeer_disconnect (some (.plain .none)))
      have gone := mirror.teardown_put injective here stored left .timeout
      refine ⟨_, rfl, ?_, gone.mirror⟩
      rw [Report.portion_append, released, gone.report]
      rfl
    | idle =>
      simp only [health] at h ⊢
      cases h
      have gone := mirror.teardown_put injective here stored same .timeout
      refine ⟨_, rfl, ?_, gone.mirror⟩
      rw [Report.portion_append, released, gone.report]
      rfl

theorem Mirror.sweepAll (mirror : full.Mirror host mine naming part)
    (injective : Function.Injective naming) (addresses : List Address) (now : Instant) :
    Follows host mine naming (sweepAll now addresses full)
      (sweepAll now (addresses.filter fun remote => remote.host = host) part) := by
  induction addresses generalizing full part with
  | nil =>
    rintro _ ⟨⟩
    exact ⟨_, rfl, rfl, mirror⟩
  | cons remote rest ih =>
    intro result h
    simp only [Endpoint.sweepAll, Halt.bind_eq_ok, Halt.pure_eq_ok] at h
    rcases h with ⟨⟨first, middle⟩, one, ⟨more, last⟩, others, rfl⟩
    by_cases here : remote.host = host
    · obtain ⟨image, imaged, alike⟩ := mirror.sweepAt injective here now _ one
      obtain ⟨final, finals, alikes⟩ := ih alike.mirror _ others
      rw [List.filter_cons_of_pos (by simpa using here)]
      simp only [Endpoint.sweepAll, Halt.bind_eq_ok, Halt.pure_eq_ok]
      refine ⟨_, ⟨image, imaged, final, finals, rfl⟩, ?_, alikes.mirror⟩
      rw [Report.portion_append, alike.report, alikes.report]
    · have course : Course (fun other deed => other ≠ host ∧ deed ≠ .aside) full first middle :=
        course_sweepAt ⟨here, by simp⟩ ⟨here, by simp⟩ one
      obtain ⟨unseen, kept⟩ := mirror.of_course course fun _ _ fits => fits
      obtain ⟨final, finals, alikes⟩ := ih kept _ others
      rw [List.filter_cons_of_neg (by simpa using here)]
      refine ⟨final, finals, ?_, alikes.mirror⟩
      rw [Report.portion_append, unseen, Report.empty_append, alikes.report]

theorem Mirror.sweep (mirror : full.Mirror host mine naming part)
    (injective : Function.Injective naming) (now : Instant) :
    Follows host mine naming (full.sweep now) (part.sweep now) := by
  rintro ⟨report, finish⟩ h
  obtain ⟨swept, visited, rfl⟩ := sweep_eq_ok.mp h
  obtain ⟨⟨_, image⟩, imaged, rfl, kept⟩ :=
    mirror.sweepAll injective full.roster.addresses now _ visited
  rw [← mirror.addresses] at imaged
  exact ⟨_, sweep_eq_ok.mpr ⟨image, imaged, rfl⟩, rfl,
    { kept with penalties := kept.penalties.purgeExpired now }⟩

/-! ## Commands to clients of the host -/

/-- A client that is found at the host is found on the other side under its other number,
or has a session on neither. -/
theorem Mirror.find?_cases (mirror : full.Mirror host mine naming part)
    (here : remote.host = host) {client : ClientId}
    (known : full.roster.addressOf? client = some remote) :
    (full.find? client = none ∧ part.find? (naming client) = none) ∨
      ∃ session, full.roster.get? remote = some session ∧
        full.find? client = some (remote, session) ∧
        part.find? (naming client) = some (remote, session.renamed naming) := by
  have image := mirror.clients client remote here known
  simp only [Endpoint.find?, known, image, Option.bind_eq_bind, Option.bind_some,
    Option.pure_def, mirror.sessions remote here]
  cases full.roster.get? remote with
  | none => exact .inl ⟨rfl, rfl⟩
  | some session => exact .inr ⟨session, rfl, rfl, rfl⟩

theorem Mirror.send (mirror : full.Mirror host mine naming part) (here : remote.host = host)
    {client : ClientId} (known : full.roster.addressOf? client = some remote) {payload : Payload}
    {reliable : Bool} {now : Instant} {answer : Except SessionFault (Option Sequence)}
    {finish : Endpoint} (h : full.send client payload reliable now = .ok (answer, finish)) :
    ∃ image, part.send (naming client) payload reliable now =
        .ok (answer.mapError (SessionFault.renamed naming), image) ∧
      finish.Mirror host mine naming image := by
  unfold Endpoint.send at h ⊢
  rcases mirror.find?_cases here known with ⟨absent, image⟩ | ⟨session, stored, found, image⟩
  · rw [absent] at h
    rw [image]
    cases h
    exact ⟨part, rfl, mirror⟩
  · rw [found] at h
    rw [image]
    simp only [Halt.bind_eq_ok] at h ⊢
    rcases h with ⟨⟨reply, next⟩, returned, h⟩
    have same := (Session.sending returned).samePeer
    cases reply with
    | ok number =>
      simp only [flush_put, Halt.pure_eq_ok] at h
      cases h
      refine ⟨_, ⟨(.ok number, next.renamed naming), Session.send_renamed returned, ?_⟩,
        (mirror.put here stored same.takeOutgoing).enqueue here next.takeOutgoing.1⟩
      simp only [flush_put]
      rfl
    | error fault =>
      cases h
      exact ⟨_, ⟨_, Session.send_renamed returned, rfl⟩, mirror.put here stored same⟩

theorem Mirror.disconnect (mirror : full.Mirror host mine naming part)
    (injective : Function.Injective naming) (here : remote.host = host) {client : ClientId}
    (known : full.roster.addressOf? client = some remote) (farewell : Farewell) :
    Outcome.ofResult (part.disconnect (naming client) farewell).1 =
        (Outcome.ofResult (full.disconnect client farewell).1).portion host mine naming ∧
      (full.disconnect client farewell).2.Mirror host mine naming
        (part.disconnect (naming client) farewell).2 := by
  have alike := mirror.close injective here farewell .byServer
  simp only [Endpoint.disconnect, known, mirror.clients client remote here known]
  exact ⟨alike.outcome, alike.mirror⟩

theorem Mirror.disconnectLocalized (mirror : full.Mirror host mine naming part)
    (injective : Function.Injective naming) (here : remote.host = host) {client : ClientId}
    (known : full.roster.addressOf? client = some remote) (reason : DisconnectReason)
    (text : LocalizedText) (args : List String) :
    Outcome.ofResult (part.disconnectLocalized (naming client) reason text args).1 =
        (Outcome.ofResult (full.disconnectLocalized client reason text args).1).portion host mine
          naming ∧
      (full.disconnectLocalized client reason text args).2.Mirror host mine naming
        (part.disconnectLocalized (naming client) reason text args).2 := by
  have alike := mirror.close injective here
    (full.localizedFarewell remote reason text args) .byServer
  simp only [Endpoint.disconnectLocalized, known, mirror.clients client remote here known,
    mirror.localizedFarewell here]
  exact ⟨alike.outcome, alike.mirror⟩

theorem Mirror.attachRoom (mirror : full.Mirror host mine naming part)
    (here : remote.host = host) {client : ClientId}
    (known : full.roster.addressOf? client = some remote) (room : RoomKey) :
    Outcome.ofUnit (part.attachRoom (naming client) room).1 =
        (Outcome.ofUnit (full.attachRoom client room).1).portion host mine naming ∧
      (full.attachRoom client room).2.Mirror host mine naming
        (part.attachRoom (naming client) room).2 := by
  rw [portion_ofUnit]
  unfold Endpoint.attachRoom
  rcases mirror.find?_cases here known with ⟨absent, image⟩ | ⟨session, stored, found, image⟩
  · rw [absent, image]
    exact ⟨rfl, mirror⟩
  · rw [found, image]
    by_cases identified : session.isIdentified = true
    · simp only [Session.isIdentified_renamed, identified, if_true]
      exact ⟨rfl, mirror.put here stored ⟨rfl, rfl, rfl⟩⟩
    · simp only [Session.isIdentified_renamed, identified]
      exact ⟨rfl, mirror⟩

theorem Mirror.detachRoom (mirror : full.Mirror host mine naming part)
    (here : remote.host = host) {client : ClientId}
    (known : full.roster.addressOf? client = some remote) :
    Outcome.ofUnit (part.detachRoom (naming client)).1 =
        (Outcome.ofUnit (full.detachRoom client).1).portion host mine naming ∧
      (full.detachRoom client).2.Mirror host mine naming (part.detachRoom (naming client)).2 := by
  rw [portion_ofUnit]
  unfold Endpoint.detachRoom
  rcases mirror.find?_cases here known with ⟨absent, image⟩ | ⟨session, stored, found, image⟩
  · rw [absent, image]
    exact ⟨rfl, mirror⟩
  · rw [found, image]
    exact ⟨rfl, mirror.put here stored ⟨rfl, rfl, rfl⟩⟩

/-! ## Rooms and the queue -/

theorem Mirror.ensureRoom (mirror : full.Mirror host mine naming part) (name : String) :
    (part.ensureRoom name).1 = (full.ensureRoom name).1 ∧
      (full.ensureRoom name).2.Mirror host mine naming (part.ensureRoom name).2 := by
  have same : part.rooms.ensure name = full.rooms.ensure name := by rw [mirror.rooms]
  have key : (part.rooms.ensure name).1 = (full.rooms.ensure name).1 := by rw [same]
  have rooms : (part.rooms.ensure name).2 = (full.rooms.ensure name).2 := by rw [same]
  exact ⟨key, { mirror with rooms }⟩

theorem Mirror.dropRoom (mirror : full.Mirror host mine naming part) (name : String) :
    (part.dropRoom name).1 = (full.dropRoom name).1 ∧
      (full.dropRoom name).2.Mirror host mine naming (part.dropRoom name).2 := by
  have same : part.rooms.drop name = full.rooms.drop name := by rw [mirror.rooms]
  have existed : (part.rooms.drop name).1 = (full.rooms.drop name).1 := by rw [same]
  have rooms : (part.rooms.drop name).2 = (full.rooms.drop name).2 := by rw [same]
  exact ⟨existed, { mirror with rooms }⟩

theorem Mirror.drainOutgoing (mirror : full.Mirror host mine naming part) :
    part.drainOutgoing.1 = full.drainOutgoing.1.filter (fun item => item.1.host = host) ∧
      full.drainOutgoing.2.Mirror host mine naming part.drainOutgoing.2 :=
  ⟨mirror.outgoing, { mirror with outgoing := rfl }⟩

/-! ## Operations -/

/-- What does not concern the host touches other hosts only, and nothing that belongs to
everybody. -/
theorem elsewhere_of_may {operation : Operation} {other : Host} {deed : Deed}
    (unconcerned : full.concerns host operation = false) (may : full.May operation other deed) :
    other ≠ host ∧ deed ≠ .aside := by
  rcases may with ⟨touched, among⟩
  cases operation with
  | datagram remote bytes now =>
    refine ⟨fun same => of_decide_eq_false unconcerned (touched.symm.trans same), ?_⟩
    rintro rfl
    simp [Operation.deeds] at among
  | ban banned duration now =>
    refine ⟨fun same => of_decide_eq_false unconcerned (touched.symm.trans same), ?_⟩
    rintro rfl
    simp [Operation.deeds] at among
  | unban banned =>
    refine ⟨fun same => of_decide_eq_false unconcerned (touched.symm.trans same), ?_⟩
    rintro rfl
    simp [Operation.deeds] at among
  | sweep now => cases unconcerned
  | shutdown => cases unconcerned
  | ensureRoom name => cases unconcerned
  | dropRoom name => cases unconcerned
  | drain => cases unconcerned
  | _ =>
    rcases touched with ⟨remote, known, rfl⟩
    refine ⟨by simpa [concerns, known] using unconcerned, ?_⟩
    rintro rfl
    simp [Operation.deeds] at among

/-- An operation that does not concern the host is not seen. -/
theorem Mirror.of_apply_elsewhere {operation : Operation} {outcome : Outcome} {finish : Endpoint}
    (mirror : full.Mirror host mine naming part)
    (h : full.apply operation = .ok (outcome, finish))
    (unconcerned : full.concerns host operation = false)
    (foreign : full.opens operation = true → full.roster.nextClient ∉ mine) :
    outcome.report.portion mine naming = .empty ∧ finish.Mirror host mine naming part := by
  obtain ⟨opened, opening, course⟩ := course_of_apply h
  have enrolled : opened.Mirror host mine naming part := by
    cases opening with
    | known _ => exact mirror
    | @fresh remote bytes now session opens made =>
      have client : session.client = full.roster.nextClient := by rw [Session.create_eq_ok made]
      exact mirror.enrol_elsewhere (of_decide_eq_false unconcerned) (get?_of_opens opens)
        (foreign opens) client
  exact enrolled.of_course course fun _ _ may => elsewhere_of_may unconcerned may

theorem datagrams_ofResult (result : Except SessionFault Report) :
    (Outcome.ofResult result).answer.datagrams = [] := by
  cases result <;> rfl

theorem datagrams_ofUnit (result : Except SessionFault Unit) :
    (Outcome.ofUnit result).answer.datagrams = [] := by
  cases result <;> rfl

theorem datagrams_ofSent (result : Except SessionFault (Option Sequence)) :
    (Outcome.ofSent result).answer.datagrams = [] := by
  cases result <;> rfl

/-- The answer to an operation that does not concern the host hands out no datagrams. -/
theorem datagrams_of_elsewhere {operation : Operation} {outcome : Outcome} {finish : Endpoint}
    (h : full.apply operation = .ok (outcome, finish))
    (unconcerned : full.concerns host operation = false) : outcome.answer.datagrams = [] := by
  cases operation with
  | datagram remote bytes now =>
    obtain ⟨_, _, h⟩ := Halt.bind_eq_ok.mp h
    cases h
    rfl
  | send client payload reliable now =>
    obtain ⟨_, _, h⟩ := Halt.bind_eq_ok.mp h
    cases h
    exact datagrams_ofSent _
  | disconnect client farewell =>
    cases h
    exact datagrams_ofResult _
  | disconnectLocalized client reason text args =>
    cases h
    exact datagrams_ofResult _
  | attachRoom client room =>
    cases h
    exact datagrams_ofUnit _
  | detachRoom client =>
    cases h
    exact datagrams_ofUnit _
  | ban banned duration now =>
    obtain ⟨_, _, h⟩ := Halt.bind_eq_ok.mp h
    cases h
    rfl
  | unban banned =>
    cases h
    rfl
  | _ => cases unconcerned

theorem exists_of_any_addressOf? {client : ClientId}
    (here : (full.roster.addressOf? client).any (fun remote => remote.host = host) = true) :
    ∃ remote, full.roster.addressOf? client = some remote ∧ remote.host = host := by
  obtain ⟨remote, known, inside⟩ := (Option.any_eq_true ..).mp here
  exact ⟨remote, known, of_decide_eq_true inside⟩

/-- An operation that concerns the host has its image on the other side. -/
theorem Mirror.of_apply {operation : Operation} {outcome : Outcome} {finish : Endpoint}
    (mirror : full.Mirror host mine naming part) (injective : Function.Injective naming)
    (h : full.apply operation = .ok (outcome, finish))
    (here : full.concerns host operation = true)
    (new : full.opens operation = true →
      full.roster.nextClient ∈ mine ∧ naming full.roster.nextClient = part.roster.nextClient) :
    ∃ image, part.apply (operation.renamed naming) =
        .ok (outcome.portion host mine naming, image) ∧
      finish.Mirror host mine naming image := by
  cases operation with
  | datagram remote bytes now =>
    exact (mirror.handleDatagram injective (of_decide_eq_true here) bytes now new).outcome h
  | send client payload reliable now =>
    obtain ⟨remote, known, inside⟩ := exists_of_any_addressOf? here
    obtain ⟨⟨answer, finish⟩, returned, h⟩ := Halt.bind_eq_ok.mp h
    cases h
    obtain ⟨image, imaged, kept⟩ := mirror.send inside known returned
    refine ⟨image, ?_, kept⟩
    rw [portion_ofSent]
    exact Halt.bind_eq_ok.mpr ⟨_, imaged, rfl⟩
  | disconnect client farewell =>
    obtain ⟨remote, known, inside⟩ := exists_of_any_addressOf? here
    obtain ⟨told, kept⟩ := mirror.disconnect injective inside known farewell
    cases h
    exact ⟨_, congrArg (Except.ok <| Prod.mk · _) told, kept⟩
  | disconnectLocalized client reason text args =>
    obtain ⟨remote, known, inside⟩ := exists_of_any_addressOf? here
    obtain ⟨told, kept⟩ := mirror.disconnectLocalized injective inside known reason text args
    cases h
    exact ⟨_, congrArg (Except.ok <| Prod.mk · _) told, kept⟩
  | attachRoom client room =>
    obtain ⟨remote, known, inside⟩ := exists_of_any_addressOf? here
    obtain ⟨answered, kept⟩ := mirror.attachRoom inside known room
    cases h
    exact ⟨_, congrArg (Except.ok <| Prod.mk · _) answered, kept⟩
  | detachRoom client =>
    obtain ⟨remote, known, inside⟩ := exists_of_any_addressOf? here
    obtain ⟨answered, kept⟩ := mirror.detachRoom inside known
    cases h
    exact ⟨_, congrArg (Except.ok <| Prod.mk · _) answered, kept⟩
  | ban banned duration now =>
    cases of_decide_eq_true here
    exact (mirror.ban injective duration now).outcome h
  | unban banned =>
    cases of_decide_eq_true here
    obtain ⟨lifted, kept⟩ := mirror.unban
    cases h
    refine ⟨_, ?_, kept⟩
    exact congrArg (fun flag => Except.ok (Outcome.quiet (.flag flag), _)) lifted
  | sweep now => exact (mirror.sweep injective now).outcome h
  | shutdown =>
    cases h
    have alike := mirror.shutdown injective
    exact ⟨_, congrArg (Except.ok <| Prod.mk · _) alike.outcome, alike.mirror⟩
  | ensureRoom name =>
    obtain ⟨same, kept⟩ := mirror.ensureRoom name
    cases h
    refine ⟨_, ?_, kept⟩
    exact congrArg (fun key => Except.ok (Outcome.quiet (.room key), _)) same
  | dropRoom name =>
    obtain ⟨same, kept⟩ := mirror.dropRoom name
    cases h
    refine ⟨_, ?_, kept⟩
    exact congrArg (fun flag => Except.ok (Outcome.quiet (.flag flag), _)) same
  | drain =>
    obtain ⟨own, kept⟩ := mirror.drainOutgoing
    cases h
    refine ⟨_, ?_, kept⟩
    exact congrArg (fun datagrams => Except.ok (Outcome.quiet (.drained datagrams), _)) own

end Endpoint

end SessionLayer
