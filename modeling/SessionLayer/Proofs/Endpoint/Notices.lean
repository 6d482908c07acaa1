import SessionLayer.Proofs.Endpoint.Bans
import SessionLayer.Proofs.Endpoint.Farewells

/-!
# Notices to banned hosts

A peer that greets from a banned host is told so. When its host was last told is kept
until the ban of the host is lifted, renewed or found to have ended, so whoever greets, and
from however many ports, a host hears no more than one notice in an interval
(`Endpoint.ban_notices_spaced`). `Endpoint.Amends` says what an operation may do to the
penalties, and `PenaltyBook.Warned` is what the operations between two notices keep.
-/

namespace SessionLayer

namespace PenaltyBook

variable {book next : PenaltyBook} {host other : Host} {since now : Instant}

/-- A host that has a ban was told so at this time or later. -/
def Warned (book : PenaltyBook) (host : Host) (since : Instant) : Prop :=
  ∀ lapse, book.bans.get? host = some lapse →
    ∃ last, since ≤ last ∧ book.notices.get? host = some last

theorem Warned.of_eq (warned : book.Warned host since)
    (bans : next.bans.get? host = book.bans.get? host)
    (notices : next.notices.get? host = book.notices.get? host) : next.Warned host since := by
  intro lapse banned
  rw [bans] at banned
  rw [notices]
  exact warned lapse banned

theorem Warned.of_sameBut (warned : book.Warned host since) (same : book.SameBut other next)
    (elsewhere : host ≠ other) : next.Warned host since :=
  warned.of_eq (same.bans host elsewhere) (same.notices host elsewhere)

theorem Warned.grantNotice (warned : book.Warned host since) (other : Host)
    (after : since ≤ now) : (book.grantNotice other now).2.Warned host since := by
  by_cases here : host = other
  · subst here
    cases granted : (book.grantNotice host now).1 with
    | true =>
      rw [(grantNotice_eq_true granted).1]
      exact fun _ _ => ⟨now, after, Table.get?_insert_self _ _ _⟩
    | false => rwa [grantNotice_eq_false granted]
  · exact warned.of_sameBut (sameBut_grantNotice book other now) here

/-- Whoever still has a ban after a purge has its last notice, too. -/
theorem Warned.purgeExpired (warned : book.Warned host since) (now : Instant) :
    (book.purgeExpired now).2.Warned host since := by
  intro lapse banned
  have kept : (book.bans.filter fun _ lapse => now < lapse).get? host = some lapse := banned
  have before := kept
  rw [Table.get?_filter] at before
  obtain ⟨last, after, told⟩ := warned lapse (Option.filter_eq_some_iff.mp before).1
  refine ⟨last, after, ?_⟩
  show (book.notices.filter _).get? host = some last
  rw [Table.get?_filter, told, Option.filter_some, Table.contains, kept]
  rfl

end PenaltyBook

namespace Endpoint

variable {start middle finish : Endpoint} {operation : Operation} {outcome : Outcome}
  {outcomes : List Outcome} {operations : List Operation} {remote : Address} {host : Host}
  {bytes : Bytes} {since now : Instant}

/-! ## What becomes of the penalties -/

/-- The penalties after an operation. -/
inductive Amends (start : Endpoint) : Operation → PenaltyBook → Prop
  | kept (operation : Operation) : Amends start operation start.penalties
  | asked (remote : Address) (bytes : Bytes) (now : Instant) :
    Amends start (.datagram remote bytes now) (start.penalties.grantNotice remote.host now).2
  | punished {remote : Address} {bytes : Bytes} {now : Instant} {verdict : PenaltyVerdict}
      {book : PenaltyBook} :
    start.Penalizes remote (.datagram remote bytes now) →
    start.penalties.recordOffense remote.host now = .ok (verdict, book) →
    Amends start (.datagram remote bytes now) book
  | banned {host : Host} {duration : Span} {now : Instant} {book : PenaltyBook} :
    start.penalties.ban host duration now = .ok book →
    Amends start (.ban host duration now) book
  | pardoned (host : Host) : Amends start (.unban host) (start.penalties.unban host).2
  | purged (now : Instant) : Amends start (.sweep now) (start.penalties.purgeExpired now).2

theorem penalties_onBanned (endpoint : Endpoint) (remote : Address) (bytes : Bytes)
    (remaining : Span) (now : Instant) :
    (endpoint.onBanned remote bytes remaining now).penalties = endpoint.penalties ∨
      (endpoint.onBanned remote bytes remaining now).penalties =
        (endpoint.penalties.grantNotice remote.host now).2 := by
  unfold onBanned rejectBanned
  split
  · simp only
    split
    · split <;> exact .inr rfl
    · exact .inr rfl
  · exact .inl rfl

theorem ruling?_ne_none (passes : start.admits remote bytes now = true) :
    start.ruling? remote (.datagram remote bytes now) ≠ none := by
  obtain ⟨kind, peeked, -⟩ := handleDatagram_of_admits passes
  rw [ruling?_of_admits passes peeked]
  nofun

theorem amends_of_datagram
    (h : start.apply (.datagram remote bytes now) = .ok (outcome, finish)) :
    start.Amends (.datagram remote bytes now) finish.penalties := by
  cases passes : start.admits remote bytes now with
  | false =>
    simp only [apply, Halt.bind_eq_ok, Halt.pure_eq_ok] at h
    obtain ⟨⟨report, finish⟩, handled, h⟩ := h
    cases h
    rcases handleDatagram_of_not_admits passes with dropped | ⟨remaining, -, banned⟩
    · rw [dropped] at handled
      cases handled
      exact .kept _
    · rw [banned] at handled
      cases handled
      rcases start.penalties_onBanned remote bytes remaining now with same | same
      · rw [same]
        exact .kept _
      · rw [same]
        exact .asked remote bytes now
  | true =>
    have handling := handling_of_apply h
    generalize outcome.report = report at handling
    cases handling with
    | turnedAway unruled _ _ => exact absurd unruled (ruling?_ne_none passes)
    | @ruled opened _ _ next ruling _ decided opening _ _ _ ruled =>
      have before : (opened.put remote next).penalties = start.penalties := opening.penalties_eq
      generalize decision : ruling.decision = verdict at ruled
      cases ruled with
      | dropped _ | unreadable | taken _ _ | left _ _ => exact before ▸ .kept _
      | expelled recorded closing | banned recorded closing =>
        rw [before] at recorded
        rw [closing.penalties]
        exact .punished ⟨ruling, decided, decision⟩ recorded

theorem amends_of_apply (h : start.apply operation = .ok (outcome, finish)) :
    start.Amends operation finish.penalties := by
  cases operation with
  | datagram remote bytes now => exact amends_of_datagram h
  | ban host duration now =>
    obtain ⟨book, recorded, closing⟩ := closing_of_ban h
    rw [closing.penalties]
    exact .banned recorded
  | unban host =>
    cases h
    exact .pardoned host
  | sweep now =>
    simp only [apply, Halt.bind_eq_ok, Halt.pure_eq_ok] at h
    obtain ⟨⟨report, finish⟩, swept, h⟩ := h
    cases h
    obtain ⟨middle, visited, rfl⟩ := sweep_eq_ok.mp swept
    have course : Course (fun _ deed => deed = .kept now ∨ deed = .ended) start report middle :=
      course_sweepAll (fun _ _ => ⟨.inl rfl, .inr rfl⟩) visited
    have same : middle.penalties = start.penalties :=
      course.penalties_eq fun _ _ may => by rcases may with rfl | rfl <;> simp
    show start.Amends _ (middle.penalties.purgeExpired now).2
    rw [same]
    exact .purged now
  | ensureRoom _ | dropRoom _ | drain =>
    cases h
    exact .kept _
  | _ =>
    rw [penalties_of_apply h rfl (by simp [Operation.deeds])]
    exact .kept _

theorem Amends.policy_eq {book : PenaltyBook} (amends : start.Amends operation book) :
    book.policy = start.penalties.policy := by
  cases amends with
  | kept _ => rfl
  | asked remote _ now => exact (PenaltyBook.sameBut_grantNotice _ remote.host now).policy
  | punished _ recorded => exact (PenaltyBook.sameBut_recordOffense recorded).policy
  | banned recorded => exact (PenaltyBook.sameBut_ban recorded).policy
  | pardoned host => rfl
  | purged now => rfl

/-- What penalties bring is settled for good when the endpoint is made. -/
theorem policy_of_run (h : start.run operations = .ok (outcomes, finish)) :
    finish.penalties.policy = start.penalties.policy := by
  induction operations generalizing start outcomes with
  | nil =>
    cases h
    rfl
  | cons operation rest ih =>
    obtain ⟨outcome, middle, others, first, next, -⟩ := run_cons_eq_ok.mp h
    exact (ih next).trans (amends_of_apply first).policy_eq

/-! ## From one notice to the next -/

/-- The operation bans a host, by command or by a penalty on one of its peers, or lifts its
ban. -/
inductive Rejudges (endpoint : Endpoint) (host : Host) : Operation → Prop
  | banned (duration : Span) (now : Instant) :
    Rejudges endpoint host (.ban host duration now)
  | punished {remote : Address} {bytes : Bytes} {now : Instant} {duration : Span}
      {book : PenaltyBook} :
    remote.host = host → endpoint.Penalizes remote (.datagram remote bytes now) →
    endpoint.penalties.recordOffense host now = .ok (.ban duration, book) →
    Rejudges endpoint host (.datagram remote bytes now)
  | pardoned : Rejudges endpoint host (.unban host)

/-- These operations lead from one state of the endpoint to another. -/
def Leads (start : Endpoint) (operations : List Operation) (finish : Endpoint) : Prop :=
  ∃ outcomes, start.run operations = .ok (outcomes, finish)

/-- While these operations are done, one of them bans the host or lifts its ban. -/
def Rejudged (start : Endpoint) (host : Host) (operations : List Operation) : Prop :=
  ∃ before operation after between, operations = before ++ operation :: after ∧
    start.Leads before between ∧ between.Rejudges host operation

theorem Rejudged.cons (applied : start.apply operation = .ok (outcome, middle))
    (later : middle.Rejudged host operations) : start.Rejudged host (operation :: operations) := by
  obtain ⟨before, other, after, between, rfl, ⟨outcomes, ran⟩, rejudges⟩ := later
  exact ⟨operation :: before, other, after, between, rfl,
    ⟨outcome :: outcomes, run_cons_eq_ok.mpr ⟨outcome, middle, outcomes, applied, ran, rfl⟩⟩,
    rejudges⟩

/-- An operation keeps it in mind that a host was told, unless it judges the host anew. -/
theorem Amends.warned {book : PenaltyBook} (amends : start.Amends operation book)
    (warned : start.penalties.Warned host since) (later : ∀ now ∈ operation.time?, since ≤ now)
    (spared : ¬ start.Rejudges host operation) : book.Warned host since := by
  cases amends with
  | kept _ => exact warned
  | asked remote _ now => exact warned.grantNotice remote.host (later now rfl)
  | @punished remote bytes now verdict book penalizes recorded =>
    by_cases here : host = remote.host
    · subst here
      cases verdict with
      | disconnect =>
        refine warned.of_eq ?_ ?_
        · rw [PenaltyBook.bans_of_disconnect recorded]
        · rw [PenaltyBook.notices_of_disconnect recorded]
      | ban duration => exact absurd (.punished rfl penalizes recorded) spared
    · exact warned.of_sameBut (PenaltyBook.sameBut_recordOffense recorded) here
  | @banned other duration now book recorded =>
    refine warned.of_sameBut (PenaltyBook.sameBut_ban recorded) ?_
    rintro rfl
    exact spared (.banned duration now)
  | pardoned other =>
    refine warned.of_sameBut (PenaltyBook.sameBut_unban _ other) ?_
    rintro rfl
    exact spared .pardoned
  | purged now => exact warned.purgeExpired now

theorem warned_of_run (h : start.run operations = .ok (outcomes, finish))
    (warned : start.penalties.Warned host since)
    (later : ∀ now ∈ times operations, since ≤ now) :
    finish.penalties.Warned host since ∨ start.Rejudged host operations := by
  induction operations generalizing start outcomes with
  | nil =>
    cases h
    exact .inl warned
  | cons operation rest ih =>
    obtain ⟨outcome, middle, others, first, next, -⟩ := run_cons_eq_ok.mp h
    rw [times_cons] at later
    by_cases rejudges : start.Rejudges host operation
    · exact .inr ⟨[], operation, rest, start, rfl, ⟨[], rfl⟩, rejudges⟩
    · have halfway := (amends_of_apply first).warned warned
        (fun now given => later now (List.mem_append_left _ (Option.mem_toList.mpr given))) rejudges
      exact (ih next halfway fun now given => later now (List.mem_append_right _ given)).imp_right
        (.cons first)

/-! ## Farewells that no penalty brings -/

/-- With this operation a datagram comes in and brings no penalty on its sender, and yet a
farewell goes out to `remote` because of it. A penalty has farewells of its own, which end
the sessions of its host and are no notices. -/
structure Dismisses (start : Endpoint) (operation : Operation) (now : Instant)
    (remote : Address) (finish : Endpoint) : Prop where
  came : ∃ sender bytes, operation = .datagram sender bytes now ∧
    ¬ start.Penalizes sender operation
  done : ∃ outcome, start.apply operation = .ok (outcome, finish)
  told : ∃ datagrams farewell,
    finish.outgoing.toList = start.outgoing.toList ++ datagrams ∧
      (remote, farewell) ∈ datagrams ∧ IsFarewell farewell

/-- With this operation a greeting comes in from a banned host, and the answer to it is
the only datagram that goes out: how long the ban still lasts. -/
structure Notifies (start : Endpoint) (operation : Operation) (now : Instant)
    (remote : Address) (finish : Endpoint) : Prop where
  greeted : ∃ bytes remaining notice, operation = .datagram remote bytes now ∧
    PacketKind.peek bytes = .ok .hello ∧
    start.penalties.banRemaining remote.host now = some remaining ∧
    (Packet.disconnect (some (start.banNotice (helloLocale? bytes) remaining))).encode =
      .ok notice ∧
    finish.outgoing.toList = start.outgoing.toList ++ [(remote, notice)]
  granted : (start.penalties.grantNotice remote.host now).1 = true
  noted : finish.penalties = (start.penalties.grantNotice remote.host now).2

/-- Between operations no session has anything to send, and none has been ended. -/
theorem settled_of_run {settings : EndpointSettings}
    (ran : (create settings).run operations = .ok (outcomes, start)) {session : Session}
    (stored : start.roster.get? remote = some session) :
    session.outbox = .empty ∧ session.Steady := by
  have emptied := emptied_create settings
  have lived := ((lived_create settings).of_run emptied ran).1
  exact ⟨((emptied.of_run ran).1 _ _ stored).2, lived.steady _ _ stored⟩

/-- Nothing that a session queues in answer to a packet ends it. -/
theorem not_isFarewell_of_taken {session : Session} {packet : Packet}
    (empty : session.outbox = .empty) (steady : session.Steady)
    (stays : peerFarewell? (session.handlePacket packet now).1 = none) :
    ∀ datagram ∈ (session.handlePacket packet now).2.takeOutgoing.1, ¬ IsFarewell datagram := by
  obtain ⟨datagrams, goesOn⟩ := Session.goesOn_handlePacket stays
  have queues := goesOn.queues
  rw [Session.Queues, empty, Queue.toList_empty, List.nil_append] at queues
  rw [Session.takeOutgoing, queues]
  exact goesOn.common steady

/-- A banned host is sent nothing, or its greeting is answered with the one notice that is
granted. -/
theorem outgoing_onBanned (endpoint : Endpoint) (remote : Address) (bytes : Bytes)
    (remaining : Span) (now : Instant) :
    (endpoint.onBanned remote bytes remaining now).outgoing = endpoint.outgoing ∨
      ∃ notice, PacketKind.peek bytes = .ok .hello ∧
        (endpoint.penalties.grantNotice remote.host now).1 = true ∧
        (Packet.disconnect (some (endpoint.banNotice (helloLocale? bytes) remaining))).encode =
          .ok notice ∧
        endpoint.onBanned remote bytes remaining now =
          { endpoint with
            penalties := (endpoint.penalties.grantNotice remote.host now).2 }.enqueue remote
              [notice] := by
  unfold onBanned
  split
  · rename_i greets
    simp only
    split
    · rename_i granted
      simp only [rejectBanned]
      split
      · rename_i notice written
        exact .inr ⟨notice, greets, granted, written, rfl⟩
      · exact .inl rfl
    · exact .inl rfl
  · exact .inl rfl

/-- Where no penalty is brought, a session is left with nothing to send but common
datagrams. -/
theorem sent_of_ruled {session : Session} {decision : RateDecision} {report : Report}
    (ruled : start.Ruled remote session bytes now decision report finish)
    (mild : decision ≠ .penalize) (empty : session.outbox = .empty) (steady : session.Steady) :
    ∃ sent : List Bytes,
      finish.outgoing.toList = start.outgoing.toList ++ sent.map (fun bytes => (remote, bytes)) ∧
      ∀ datagram ∈ sent, ¬ IsFarewell datagram := by
  cases ruled with
  | dropped _ | unreadable _ => exact ⟨[], (List.append_nil _).symm, nofun⟩
  | taken _ stays =>
    exact ⟨_, toList_enqueue _ _ _, not_isFarewell_of_taken empty steady stays⟩
  | left _ left =>
    refine ⟨[], ?_, nofun⟩
    rw [Session.handlePacket_of_left left, release, toList_enqueue, Session.takeOutgoing, empty]
    rfl
  | expelled _ _ | banned _ _ => exact absurd rfl mild

/-- A peer that passes the gates is sent no farewell without a penalty. -/
theorem common_of_admits
    (settled : ∀ remote session, start.roster.get? remote = some session →
      session.outbox = .empty ∧ session.Steady)
    (passes : start.admits remote bytes now = true)
    (spared : ¬ start.Penalizes remote (.datagram remote bytes now))
    (applied : start.apply (.datagram remote bytes now) = .ok (outcome, finish)) :
    ∃ sent : List Bytes,
      finish.outgoing.toList = start.outgoing.toList ++ sent.map (fun bytes => (remote, bytes)) ∧
      ∀ datagram ∈ sent, ¬ IsFarewell datagram := by
  have handling := handling_of_apply applied
  generalize outcome.report = report at handling
  cases handling with
  | turnedAway unruled _ _ => exact absurd unruled (ruling?_ne_none passes)
  | @ruled opened _ session next ruling _ decided opening stored _ checked ruled =>
    have mild : ruling.decision ≠ .penalize := fun harsh => spared ⟨ruling, decided, harsh⟩
    obtain ⟨empty, steady⟩ := stored_of_opening
      (fun _ created => ⟨by rw [Session.create_eq_ok created], .of_create created⟩)
      opening settled _ _ stored
    have same := (Session.checkRate_eq_ok checked).2
    have waits : (opened.put remote next).outgoing = start.outgoing := by
      cases opening <;> rfl
    obtain ⟨sent, out, common⟩ := sent_of_ruled ruled mild (by rw [same, empty])
      (steady.of_eq (by rw [same]) (by rw [same]) (by rw [same]))
    exact ⟨sent, by rw [out, waits], common⟩

/-- Only a greeting from a banned host is answered with a farewell that no penalty
brings. -/
theorem Dismisses.notifies
    (settled : ∀ remote session, start.roster.get? remote = some session →
      session.outbox = .empty ∧ session.Steady)
    (dismisses : start.Dismisses operation now remote finish) :
    start.Notifies operation now remote finish := by
  obtain ⟨⟨sender, bytes, rfl, spared⟩, ⟨outcome, applied⟩, datagrams, farewell, queued, among,
    ends⟩ := dismisses
  cases passes : start.admits sender bytes now with
  | false =>
    simp only [apply, Halt.bind_eq_ok, Halt.pure_eq_ok] at applied
    obtain ⟨⟨report, finish⟩, handled, h⟩ := applied
    cases h
    have silent (same : finish.outgoing = start.outgoing) : False := by
      rw [same, List.self_eq_append_right] at queued
      rw [queued] at among
      cases among
    rcases handleDatagram_of_not_admits passes with dropped | ⟨remaining, lasts, banned⟩
    · rw [dropped] at handled
      cases handled
      exact (silent rfl).elim
    · rw [banned] at handled
      cases handled
      rcases start.outgoing_onBanned sender bytes remaining now with
        same | ⟨notice, greets, granted, written, same⟩
      · exact (silent same).elim
      · rw [same, toList_enqueue, List.append_cancel_left_eq] at queued
        rw [← queued] at among
        cases List.mem_singleton.mp among
        rw [same]
        exact ⟨⟨bytes, remaining, farewell, rfl, greets, lasts, written, toList_enqueue _ _ _⟩,
          granted, rfl⟩
  | true =>
    obtain ⟨sent, out, common⟩ := common_of_admits settled passes spared applied
    rw [out, List.append_cancel_left_eq] at queued
    rw [← queued] at among
    obtain ⟨datagram, present, here⟩ := List.mem_map.mp among
    cases here
    exact absurd ends (common _ present)

/-! ## Two notices -/

/-- A host that is told now was told no later than now. -/
theorem Notifies.warned (notifies : start.Notifies operation now remote finish) :
    finish.penalties.Warned remote.host now := by
  rw [notifies.noted, (PenaltyBook.grantNotice_eq_true notifies.granted).1]
  exact fun _ _ => ⟨now, Nat.le_refl now, Table.get?_insert_self _ _ _⟩

/-- A host that was told at a time is told again only after an interval. -/
theorem Notifies.le_of_warned (notifies : start.Notifies operation now remote finish)
    (warned : start.penalties.Warned remote.host since) :
    ∃ last, since ≤ last ∧ start.penalties.policy.banNoticeInterval ≤ now - last := by
  obtain ⟨-, remaining, -, -, -, lasts, -⟩ := notifies.greeted
  obtain ⟨lapse, banned, -⟩ := Option.bind_eq_some_iff.mp lasts
  obtain ⟨last, after, told⟩ := warned lapse banned
  exact ⟨last, after, (PenaltyBook.grantNotice_eq_true notifies.granted).2 last told⟩

/-- In every run in which the clock does not go back, a farewell that goes out in answer to
a datagram, though no penalty is brought, is the notice that answers a greeting from a host
that is banned at that time. Of two such notices to the same host the second comes no
earlier than a whole interval after the first, or the host is banned or pardoned in
between. -/
theorem ban_notices_spaced {settings : EndpointSettings} (onward : Onward 0 operations) :
    (∀ before operation after start now remote finish,
      operations = before ++ operation :: after → (create settings).Leads before start →
      start.Dismisses operation now remote finish →
        start.Notifies operation now remote finish) ∧
    ∀ before first between second after start early address told resumed late other finish,
      operations = before ++ first :: (between ++ second :: after) →
      (create settings).Leads before start → start.Dismisses first early address told →
      told.Leads between resumed → resumed.Dismisses second late other finish →
      other.host = address.host →
        early + settings.penalty.banNoticeInterval ≤ late ∨
          told.Rejudged address.host between := by
  have notifies {before : List Operation} {operation : Operation} {start finish : Endpoint}
      {now : Instant} {remote : Address} (reached : (create settings).Leads before start)
      (dismisses : start.Dismisses operation now remote finish) :
      start.Notifies operation now remote finish := by
    obtain ⟨outcomes, ran⟩ := reached
    exact dismisses.notifies fun _ _ => settled_of_run ran
  refine ⟨fun _ _ _ _ _ _ _ _ => notifies, ?_⟩
  intro before first between second after start early address told resumed late other finish
    whole reached once went again same
  subst whole
  obtain ⟨outcomes, ran⟩ := reached
  obtain ⟨outcome, applied⟩ := once.done
  obtain ⟨others, went⟩ := went
  have reachedAgain : (create settings).run (before ++ first :: between) =
      .ok (outcomes ++ outcome :: others, resumed) :=
    run_append_eq_ok.mpr ⟨outcomes, start, _, ran,
      run_cons_eq_ok.mpr ⟨outcome, told, others, applied, went, rfl⟩, rfl⟩
  have earlier := notifies ⟨outcomes, ran⟩ once
  have later := notifies ⟨_, reachedAgain⟩ again
  have timed : first.time? = some early := by
    obtain ⟨bytes, -, -, rfl, -⟩ := earlier.greeted
    rfl
  have timedAgain : second.time? = some late := by
    obtain ⟨bytes, -, -, rfl, -⟩ := later.greeted
    rfl
  have forward {time : Instant} (given : time ∈ times (between ++ second :: after)) :
      early ≤ time := onward.le_of_later timed given
  rw [times_append, times_cons, timedAgain] at forward
  rcases warned_of_run went earlier.warned
    fun time given => forward (List.mem_append_left _ given) with warned | rejudged
  · rw [← same] at warned
    obtain ⟨last, after, rested⟩ := later.le_of_warned warned
    rw [policy_of_run reachedAgain] at rested
    have waited : settings.penalty.banNoticeInterval ≤ late - early :=
      Nat.le_trans rested (Nat.sub_le_sub_left after late)
    have ahead : early ≤ late := forward (by simp)
    exact .inl (Nat.add_le_of_le_sub' ahead waited)
  · exact .inr rejudged

/-- A farewell to a banned peer goes out, where nothing waited before. -/
theorem dismisses_of_isBanned (banned : start.isBanned remote.host now = true)
    (silent : start.outgoing.toList = [])
    (applied : start.apply (.datagram remote bytes now) = .ok (outcome, finish))
    (answered : finish.outgoing.toList.any (fun sent =>
      sent.1 = remote ∧ (PacketKind.peek sent.2).toOption = some .disconnect) = true) :
    start.Dismisses (.datagram remote bytes now) now remote finish := by
  obtain ⟨⟨address, farewell⟩, among, here⟩ := List.any_eq_true.mp answered
  obtain ⟨rfl, ends⟩ := of_decide_eq_true here
  refine ⟨⟨address, bytes, rfl, ?_⟩, ⟨outcome, applied⟩, _, farewell, ?_, among, ?_⟩
  · rintro ⟨ruling, decided, -⟩
    obtain ⟨⟨_, about, passes, -⟩, -⟩ := ruling?_eq_some decided
    cases about
    exact Bool.false_ne_true ((isBanned_of_admits passes).symm.trans banned)
  · rw [silent, List.nil_append]
  · unfold IsFarewell
    cases peeked : PacketKind.peek farewell <;> simp_all [Except.toOption]

/-- A greeting from a port of some host. -/
def knock (port : UInt16) (now : Instant) : Operation :=
  .datagram (.v4 default port) [8, 0, 1, 0, 0, 0, 0, 0, 0] now

/-- A banned host that has been told so greets from another port, too early, and the
endpoint is swept. -/
def impatience : List Operation :=
  [knock 2 (Span.ofSeconds 5), .sweep (Span.ofSeconds 6), .drain]

theorem ban_notices_spaced_impatience :
    ∃ start told resumed finish,
      (create {}).Leads [.ban (.v4 default) (Span.ofSeconds 60) 0] start ∧
      start.Dismisses (knock 1 0) 0 (.v4 default 1) told ∧
      told.Leads impatience resumed ∧
      resumed.Dismisses (knock 3 (Span.ofSeconds 10)) (Span.ofSeconds 10) (.v4 default 3) finish ∧
      resumed.Notifies (knock 3 (Span.ofSeconds 10)) (Span.ofSeconds 10) (.v4 default 3) finish ∧
      (0 + Span.ofMillis 10000 ≤ Span.ofSeconds 10 ∨ told.Rejudged (.v4 default) impatience) := by
  have seen : ((create {}).run [.ban (.v4 default) (Span.ofSeconds 60) 0]).toOption.any
      (fun start => (start.2.apply (knock 1 0)).toOption.any fun told =>
        (told.2.run impatience).toOption.any fun resumed =>
        (resumed.2.apply (knock 3 (Span.ofSeconds 10))).toOption.any fun finish =>
          start.2.isBanned (.v4 default) 0 && start.2.outgoing.toList = [] &&
          told.2.outgoing.toList.any (fun sent =>
            sent.1 = .v4 default 1 ∧ (PacketKind.peek sent.2).toOption = some .disconnect) &&
          resumed.2.isBanned (.v4 default) (Span.ofSeconds 10) &&
          resumed.2.outgoing.toList = [] &&
          finish.2.outgoing.toList.any (fun sent =>
            sent.1 = .v4 default 3 ∧ (PacketKind.peek sent.2).toOption = some .disconnect)) =
      true := by
    decide +kernel
  obtain ⟨⟨outcomes, start⟩, opened, seen⟩ := Halt.exists_of_any seen
  obtain ⟨⟨first, told⟩, once, seen⟩ := Halt.exists_of_any seen
  obtain ⟨⟨others, resumed⟩, went, seen⟩ := Halt.exists_of_any seen
  obtain ⟨⟨second, finish⟩, again, seen⟩ := Halt.exists_of_any seen
  simp only [Bool.and_eq_true, decide_eq_true_eq] at seen
  obtain ⟨⟨⟨⟨⟨banned, silent⟩, answered⟩, bannedStill⟩, silentAgain⟩, answeredAgain⟩ := seen
  have onward : Onward 0 ([.ban (.v4 default) (Span.ofSeconds 60) 0] ++
      knock 1 0 :: (impatience ++ [knock 3 (Span.ofSeconds 10)])) := by decide +kernel
  have dismissed : start.Dismisses (knock 1 0) 0 (.v4 default 1) told :=
    dismisses_of_isBanned banned silent once answered
  have dismissedAgain : resumed.Dismisses (knock 3 (Span.ofSeconds 10)) (Span.ofSeconds 10)
      (.v4 default 3) finish :=
    dismisses_of_isBanned bannedStill silentAgain again answeredAgain
  have reachedAgain : (create {}).Leads ([.ban (.v4 default) (Span.ofSeconds 60) 0] ++
      knock 1 0 :: impatience) resumed :=
    ⟨_, run_append_eq_ok.mpr ⟨outcomes, start, _, opened,
      run_cons_eq_ok.mpr ⟨first, told, others, once, went, rfl⟩, rfl⟩⟩
  obtain ⟨notifies, spaced⟩ := ban_notices_spaced onward
  exact ⟨start, told, resumed, finish, ⟨outcomes, opened⟩, dismissed, ⟨others, went⟩,
    dismissedAgain, notifies _ _ [] _ _ _ _ (by simp) reachedAgain dismissedAgain,
    spaced _ _ _ _ [] _ _ _ _ _ _ _ _ rfl ⟨outcomes, opened⟩ dismissed ⟨others, went⟩
      dismissedAgain rfl⟩

end Endpoint

end SessionLayer
