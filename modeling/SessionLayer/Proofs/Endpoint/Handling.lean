import SessionLayer.Proofs.Endpoint.Closing
import SessionLayer.Proofs.Flood.Limiter

/-!
# What becomes of a datagram

A datagram is either turned away before any session or limiter sees it, or the limiter of
its peer decides about it (`Endpoint.ruling?`), and what follows is `Ruled` by that
decision. `Endpoint.handling_of_handleDatagram` is this statement. For the limiters it
means that an operation leaves the limiter of every session as it was, but for the one
datagram that it decides about (`Endpoint.limiter_of_apply`).
-/

namespace SessionLayer

/-! ## Limiters stay with their sessions -/

/-- Only a check against the limits moves a limiter. -/
theorem Turn.limiter_eq {remote : Address} {deed : Deed} {session next : Session}
    {events : List Event} {sent : List Bytes} (h : Turn remote deed session events sent next)
    (unchecked : ∀ now, deed ≠ .checked now) : next.limiter = session.limiter := by
  cases h with
  | checked _ => exact absurd rfl (unchecked _)
  | received packet now _ => exact session.limiter_handlePacket packet now
  | sent returned =>
    cases Session.sending returned <;> rfl
  | refused returned =>
    cases Session.sending returned <;> rfl
  | kept returned _ =>
    cases Session.looking returned with
    | keptUp => simp only [Session.takeOutgoing]; rw [Session.expireGaps_frame]; rfl
    | _ => rfl
  | seated room => rfl
  | unseated => rfl

namespace Endpoint

/-- Every session of the second endpoint was in the first, with the same limiter. -/
def Inherits (start finish : Endpoint) : Prop :=
  ∀ remote next, finish.roster.get? remote = some next →
    ∃ session, start.roster.get? remote = some session ∧ next.limiter = session.limiter

theorem Inherits.trans {start middle finish : Endpoint} (left : start.Inherits middle)
    (right : middle.Inherits finish) : start.Inherits finish := by
  intro remote next stored
  obtain ⟨between, stored, second⟩ := right remote next stored
  obtain ⟨session, stored, first⟩ := left remote between stored
  exact ⟨session, stored, second.trans first⟩

theorem inherits_of_roster_eq {start finish : Endpoint} (same : finish.roster = start.roster) :
    start.Inherits finish :=
  fun _ next stored => ⟨next, same ▸ stored, rfl⟩

theorem inherits_put {endpoint : Endpoint} {remote : Address} {session next : Session}
    (stored : endpoint.roster.get? remote = some session)
    (same : next.limiter = session.limiter) : endpoint.Inherits (endpoint.put remote next) := by
  intro other found present
  rw [get?_put] at present
  split at present
  · rename_i here
    cases present
    exact ⟨session, here ▸ stored, same⟩
  · exact ⟨found, present, rfl⟩

theorem inherits_release (endpoint : Endpoint) (remote : Address) (session : Session) :
    endpoint.Inherits (endpoint.release remote session) := by
  intro other found present
  rw [get?_release] at present
  split at present
  · cases present
  · exact ⟨found, present, rfl⟩

theorem Closing.inherits {causes : DisconnectCause → Prop} {gone : Address → Prop}
    {start finish : Endpoint} {report : Report}
    (closing : Closing causes gone start report finish) : start.Inherits finish :=
  fun _ next stored => ⟨next, closing.stored stored, rfl⟩

theorem Step.inherits {host : Host} {deed : Deed} {start finish : Endpoint} {report : Report}
    (step : Step host deed start report finish) (unchecked : ∀ now, deed ≠ .checked now) :
    start.Inherits finish := by
  cases step with
  | turned stored turn => exact inherits_put stored (turn.limiter_eq unchecked)
  | ended stored _ => exact inherits_release start _ _
  | judged _ => exact inherits_of_roster_eq rfl
  | noticed _ _ => exact inherits_of_roster_eq rfl
  | aside _ _ _ _ => exact inherits_of_roster_eq rfl

theorem Course.inherits {allowed : Host → Deed → Prop} {start finish : Endpoint}
    {report : Report} (course : Course allowed start report finish)
    (unchecked : ∀ host deed, allowed host deed → ∀ now, deed ≠ .checked now) :
    start.Inherits finish := by
  induction course with
  | stay => exact inherits_of_roster_eq rfl
  | step one fits _ ih => exact (one.inherits (unchecked _ _ fits)).trans ih

/-! ## Decisions -/

/-- The limiter that meets the next datagram of a peer. -/
def limiterAt (endpoint : Endpoint) (remote : Address) : RateLimiter :=
  match endpoint.roster.get? remote with
  | some session => session.limiter
  | none => .fresh endpoint.roster.flood

/-- What the limiter decides about a datagram of this peer, unless it is turned away
before. -/
def ruling? (endpoint : Endpoint) (remote : Address) : Operation → Option Ruling
  | .datagram sender bytes now =>
    if sender = remote ∧ endpoint.admits remote bytes now = true then
      (PacketKind.peek bytes).toOption.map fun kind =>
        { kind, now
          decision := ((endpoint.limiterAt remote).check kind.trafficClass now).1
          opened := (endpoint.roster.get? remote).isNone }
    else none
  | _ => none

theorem limiterAt_of_get? {endpoint : Endpoint} {remote : Address} {session : Session}
    (stored : endpoint.roster.get? remote = some session) :
    endpoint.limiterAt remote = session.limiter := by
  rw [limiterAt, stored]

theorem limiterAt_of_none {endpoint : Endpoint} {remote : Address}
    (absent : endpoint.roster.get? remote = none) :
    endpoint.limiterAt remote = .fresh endpoint.roster.flood := by
  rw [limiterAt, absent]

theorem ruling?_of_admits {endpoint : Endpoint} {remote : Address} {bytes : Bytes}
    {now : Instant} {kind : PacketKind} (passes : endpoint.admits remote bytes now = true)
    (peeked : PacketKind.peek bytes = .ok kind) :
    endpoint.ruling? remote (.datagram remote bytes now) =
      some { kind, now
             decision := ((endpoint.limiterAt remote).check kind.trafficClass now).1
             opened := (endpoint.roster.get? remote).isNone } := by
  simp [ruling?, passes, peeked, Except.toOption]

/-- What a ruling on a peer is about. -/
theorem ruling?_eq_some {endpoint : Endpoint} {remote : Address} {operation : Operation}
    {ruling : Ruling} (h : endpoint.ruling? remote operation = some ruling) :
    (∃ bytes, operation = .datagram remote bytes ruling.now ∧
      endpoint.admits remote bytes ruling.now = true ∧
      PacketKind.peek bytes = .ok ruling.kind) ∧
    ruling.decision =
      ((endpoint.limiterAt remote).check ruling.kind.trafficClass ruling.now).1 ∧
    ruling.opened = (endpoint.roster.get? remote).isNone := by
  unfold ruling? at h
  split at h
  · rename_i sender bytes now
    split at h
    · rename_i passes
      rcases passes with ⟨rfl, passes⟩
      cases peeked : PacketKind.peek bytes with
      | error fault => simp [peeked, Except.toOption] at h
      | ok kind =>
        simp only [peeked, Except.toOption, Option.map_some, Option.some.injEq] at h
        subst h
        exact ⟨⟨bytes, rfl, passes, peeked⟩, rfl, rfl⟩
    · cases h
  · cases h

/-! ## After the decision -/

/-- What becomes of a datagram after the limiter has decided about it. -/
inductive Ruled (start : Endpoint) (remote : Address) (session : Session) (bytes : Bytes)
    (now : Instant) : RateDecision → Report → Endpoint → Prop
  | dropped (warnings : Nat) : Ruled start remote session bytes now (.drop warnings) .empty start
  | unreadable {fault : WireFault} :
    Packet.decode bytes = .error fault → Ruled start remote session bytes now .accept .empty start
  | taken {packet : Packet} :
    Packet.decode bytes = .ok packet →
    peerFarewell? (session.handlePacket packet now).1 = none →
    Ruled start remote session bytes now .accept
      (.ofEvents ((session.handlePacket packet now).1.filterMap
        (eventOf? remote (session.handlePacket packet now).2)))
      ((start.put remote (session.handlePacket packet now).2.takeOutgoing.2).enqueue remote
        (session.handlePacket packet now).2.takeOutgoing.1)
  | left {packet : Packet} {farewell : Option Farewell} :
    Packet.decode bytes = .ok packet →
    peerFarewell? (session.handlePacket packet now).1 = some farewell →
    Ruled start remote session bytes now .accept
      (farewellReport start.rooms remote (session.handlePacket packet now).2 (.byPeer farewell))
      (start.release remote (session.handlePacket packet now).2)
  | expelled {book : PenaltyBook} {report : Report} {finish : Endpoint} :
    start.penalties.recordOffense remote.host now = .ok (.disconnect, book) →
    Closing (∃ farewell, · = .rateLimited farewell) (· = remote)
      { start with penalties := book } report finish →
    Ruled start remote session bytes now .penalize report finish
  | banned {book : PenaltyBook} {duration : Span} {report : Report} {finish : Endpoint} :
    start.penalties.recordOffense remote.host now = .ok (.ban duration, book) →
    Closing (∃ farewell, · = .banned farewell) (·.host = remote.host)
      { start with penalties := book } report finish →
    Ruled start remote session bytes now .penalize report finish

theorem ruled_of_penalize {start finish : Endpoint} {remote : Address} {session : Session}
    {bytes : Bytes} {now : Instant} {report : Report}
    (h : start.penalize remote now = .ok (report, finish)) :
    start.Ruled remote session bytes now .penalize report finish := by
  simp only [penalize, Halt.bind_eq_ok] at h
  rcases h with ⟨⟨verdict, book⟩, recorded, h⟩
  cases verdict with
  | disconnect =>
    simp only [Halt.pure_eq_ok] at h
    have closing (farewell : Farewell) : Closing (∃ farewell, · = .rateLimited farewell)
        (· = remote) { start with penalties := book }
        ({ start with penalties := book }.close remote farewell .rateLimited).1
        ({ start with penalties := book }.close remote farewell .rateLimited).2 :=
      closing_close _ remote farewell ⟨farewell, rfl⟩
    have closed := closing ({ start with penalties := book }.localizedFarewell remote .custom
      start.settings.penalty.disconnectMessage [])
    rw [h] at closed
    exact .expelled recorded closed
  | ban duration =>
    simp only [Halt.pure_eq_ok] at h
    have closing :=
      closing_disconnectBanned { start with penalties := book } remote.host duration
    rw [h] at closing
    exact .banned recorded closing

theorem ruled_of_handleKnown {start finish : Endpoint} {remote : Address} {session : Session}
    {kind : PacketKind} {bytes : Bytes} {now : Instant} {report : Report}
    (stored : start.roster.get? remote = some session)
    (h : start.handleKnown remote kind bytes now = .ok (report, finish)) :
    ∃ decision next, session.checkRate kind.trafficClass now = .ok (decision, next) ∧
      (start.put remote next).Ruled remote next bytes now decision report finish := by
  simp only [handleKnown, Roster.lookupOrCreate, stored, Halt.bind_eq_ok] at h
  rcases h with ⟨_, known, ⟨decision, checked⟩, returned, h⟩
  cases known
  simp only at returned h
  refine ⟨decision, checked, returned, ?_⟩
  cases decision with
  | drop warnings =>
    cases h
    exact .dropped warnings
  | penalize => exact ruled_of_penalize h
  | accept =>
    simp only at h
    split at h
    · rename_i fault unreadable
      cases h
      exact .unreadable unreadable
    · rename_i packet decoded
      have same : (start.put remote checked).dispatch remote checked packet now =
          (report, finish) := Halt.pure_eq_ok.mp h
      cases leaves : peerFarewell? (checked.handlePacket packet now).1 with
      | none =>
        rw [dispatch_of_stays leaves] at same
        cases same
        exact .taken decoded leaves
      | some farewell =>
        rw [dispatch_of_leaves leaves] at same
        cases same
        exact .left decoded leaves

/-- What becomes of a datagram. -/
inductive Handling (start : Endpoint) (remote : Address) (bytes : Bytes) (now : Instant) :
    Report → Endpoint → Prop
  | turnedAway {finish : Endpoint} :
    start.ruling? remote (.datagram remote bytes now) = none → finish.roster = start.roster →
    finish.penalties.bans = start.penalties.bans → Handling start remote bytes now .empty finish
  | ruled {opened finish : Endpoint} {session next : Session} {ruling : Ruling}
      {report : Report} :
    start.ruling? remote (.datagram remote bytes now) = some ruling →
    start.Opening (.datagram remote bytes now) opened →
    opened.roster.get? remote = some session → session.limiter = start.limiterAt remote →
    session.checkRate ruling.kind.trafficClass now = .ok (ruling.decision, next) →
    (opened.put remote next).Ruled remote next bytes now ruling.decision report finish →
    Handling start remote bytes now report finish

theorem frame_onBanned (endpoint : Endpoint) (remote : Address) (bytes : Bytes)
    (remaining : Span) (now : Instant) :
    (endpoint.onBanned remote bytes remaining now).roster = endpoint.roster ∧
      (endpoint.onBanned remote bytes remaining now).penalties.bans =
        endpoint.penalties.bans := by
  have kept : (endpoint.penalties.grantNotice remote.host now).2.bans =
      endpoint.penalties.bans := by
    unfold PenaltyBook.grantNotice
    simp only
    split <;> rfl
  unfold onBanned rejectBanned
  split
  · simp only
    split
    · split <;> exact ⟨rfl, kept⟩
    · exact ⟨rfl, kept⟩
  · exact ⟨rfl, rfl⟩

/-- A datagram that passes the gates comes to the session of its peer, which is made if there is
none. -/
theorem exists_opened {start finish : Endpoint} {remote : Address} {bytes : Bytes}
    {now : Instant} {report : Report} (passes : start.admits remote bytes now = true)
    (h : start.handleDatagram remote bytes now = .ok (report, finish)) :
    ∃ kind opened session, PacketKind.peek bytes = .ok kind ∧
      start.Opening (.datagram remote bytes now) opened ∧
      opened.roster.get? remote = some session ∧ session.limiter = start.limiterAt remote ∧
      opened.handleKnown remote kind bytes now = .ok (report, finish) := by
  obtain ⟨kind, peeked, same⟩ := handleDatagram_of_admits passes
  rw [same] at h
  cases found : start.roster.get? remote with
  | some session =>
    have unopened : start.opens (.datagram remote bytes now) = false := by
      simp [opens, found]
    exact ⟨kind, start, session, peeked, .known unopened, found, (limiterAt_of_get? found).symm, h⟩
  | none =>
    rw [handleKnown_of_none found, Halt.bind_eq_ok] at h
    rcases h with ⟨session, made, h⟩
    refine ⟨kind, _, session, peeked, .fresh (by simp [opens, found, passes]) made,
      Table.get?_insert_self _ _ _, ?_, h⟩
    rw [limiterAt_of_none found, Session.create_eq_ok made]

theorem handling_of_handleDatagram {start finish : Endpoint} {remote : Address} {bytes : Bytes}
    {now : Instant} {report : Report}
    (h : start.handleDatagram remote bytes now = .ok (report, finish)) :
    start.Handling remote bytes now report finish := by
  cases passes : start.admits remote bytes now with
  | false =>
    have unruled : start.ruling? remote (.datagram remote bytes now) = none := by
      simp [ruling?, passes]
    rcases handleDatagram_of_not_admits passes with dropped | ⟨remaining, -, banned⟩
    · rw [dropped] at h
      cases h
      exact .turnedAway unruled rfl rfl
    · rw [banned] at h
      cases h
      obtain ⟨roster, bans⟩ := start.frame_onBanned remote bytes remaining now
      exact .turnedAway unruled roster bans
  | true =>
    obtain ⟨kind, opened, session, peeked, opening, stored, limiter, handled⟩ :=
      exists_opened passes h
    obtain ⟨decision, next, checked, ruled⟩ := ruled_of_handleKnown stored handled
    obtain ⟨decided, -⟩ := Session.checkRate_eq_ok checked
    rw [limiter] at decided
    subst decided
    exact .ruled (ruling?_of_admits passes peeked) opening stored limiter checked ruled

theorem handling_of_apply {start finish : Endpoint} {remote : Address} {bytes : Bytes}
    {now : Instant} {outcome : Outcome}
    (h : start.apply (.datagram remote bytes now) = .ok (outcome, finish)) :
    start.Handling remote bytes now outcome.report finish := by
  simp only [apply, Halt.bind_eq_ok, Halt.pure_eq_ok] at h
  rcases h with ⟨⟨report, finish⟩, handled, h⟩
  cases h
  exact handling_of_handleDatagram handled

/-! ## Limiters after an operation -/

theorem Ruled.inherits {start finish : Endpoint} {remote : Address} {session : Session}
    {bytes : Bytes} {now : Instant} {decision : RateDecision} {report : Report}
    (ruled : start.Ruled remote session bytes now decision report finish)
    (stored : start.roster.get? remote = some session) : start.Inherits finish := by
  cases ruled with
  | dropped _ => exact inherits_of_roster_eq rfl
  | unreadable _ => exact inherits_of_roster_eq rfl
  | taken _ _ => exact inherits_put stored (session.limiter_handlePacket _ now)
  | left _ _ => exact inherits_release start _ _
  | expelled _ closing => exact closing.inherits
  | banned _ closing => exact closing.inherits

theorem Opening.get?_of_ne {start opened : Endpoint} {sender remote : Address} {bytes : Bytes}
    {now : Instant} (opening : start.Opening (.datagram sender bytes now) opened)
    (other : remote ≠ sender) : opened.roster.get? remote = start.roster.get? remote := by
  cases opening with
  | known _ => rfl
  | fresh _ _ => rw [get?_enrol, if_neg other]

theorem inherits_of_apply {start finish : Endpoint} {operation : Operation} {outcome : Outcome}
    (h : start.apply operation = .ok (outcome, finish))
    (silent : ∀ remote bytes now, operation ≠ .datagram remote bytes now) :
    start.Inherits finish := by
  obtain ⟨opened, opening, course⟩ := course_of_apply h
  have same : opened = start := by
    cases opening with
    | known _ => rfl
    | fresh _ _ => exact absurd rfl (silent _ _ _)
  subst same
  refine course.inherits fun host deed may now clash => ?_
  have among := may.2
  subst clash
  cases operation <;> simp [Operation.deeds] at among
  exact absurd rfl (silent _ _ _)

/-- The limiter of a session after an operation: as it was, but for the datagram that it
has decided about. -/
theorem limiter_of_apply {start finish : Endpoint} {operation : Operation} {outcome : Outcome}
    {remote : Address} {next : Session} (h : start.apply operation = .ok (outcome, finish))
    (stored : finish.roster.get? remote = some next) :
    (start.ruling? remote operation = none ∧
      ∃ session, start.roster.get? remote = some session ∧ next.limiter = session.limiter) ∨
    ∃ ruling, start.ruling? remote operation = some ruling ∧
      next.limiter = ((start.limiterAt remote).check ruling.kind.trafficClass ruling.now).2 := by
  by_cases silent : ∀ sender bytes now, operation ≠ .datagram sender bytes now
  · refine .inl ⟨?_, inherits_of_apply h silent remote next stored⟩
    cases operation with
    | datagram => exact absurd rfl (silent _ _ _)
    | _ => rfl
  simp only [ne_eq, Classical.not_forall, Classical.not_not] at silent
  rcases silent with ⟨sender, bytes, now, rfl⟩
  have handling := handling_of_apply h
  generalize outcome.report = report at handling
  cases handling with
  | turnedAway unruled roster _ =>
    rw [roster] at stored
    refine .inl ⟨?_, next, stored, rfl⟩
    by_cases here : sender = remote
    · exact here ▸ unruled
    · simp [ruling?, here]
  | @ruled opened _ session checked ruling _ decided opening present limiter check ruled =>
    obtain ⟨before, found, same⟩ := ruled.inherits (get?_put_self _ _ _) remote next stored
    rw [get?_put] at found
    split at found
    · rename_i here
      subst here
      cases found
      refine .inr ⟨ruling, decided, ?_⟩
      obtain ⟨⟨_, about, -⟩, -⟩ := ruling?_eq_some decided
      cases about
      rw [same, (Session.checkRate_eq_ok check).2, ← limiter]
    · rename_i elsewhere
      rw [opening.get?_of_ne elsewhere] at found
      exact .inl ⟨by simp [ruling?, Ne.symm elsewhere], before, found, same⟩

end Endpoint

end SessionLayer
