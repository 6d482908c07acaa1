import SessionLayer.Proofs.Endpoint.Endurance
import SessionLayer.Proofs.Endpoint.Refusals

/-!
# Datagrams that are not understood

A datagram that is too long, or whose first byte names no kind, is dropped before any session
sees it. One of a known kind is counted by the limiter of its sender before it is read, and its
sender gets a session if it has none; if it cannot be read then, this is all that it leaves
behind. `Endpoint.OnlyCounted` says so, and `Endpoint.unreadable_only_counted` is the main
statement.
-/

namespace SessionLayer.Endpoint

variable {start finish endpoint : Endpoint} {remote : Address} {bytes : Bytes}
  {session next : Session} {now : Instant} {kind : PacketKind} {fault : WireFault}
  {report : Report}

/-- The limiter of this peer has counted a datagram, and if the peer had no session, it has
got one. Nothing else has changed. -/
structure OnlyCounted (start : Endpoint) (remote : Address) (now : Instant) (finish : Endpoint) :
    Prop where
  penalties : finish.penalties = start.penalties
  outgoing : finish.outgoing = start.outgoing
  others : ∀ other, other ≠ remote → finish.roster.get? other = start.roster.get? other
  known : ∀ session, start.roster.get? remote = some session →
    ∃ limiter, finish = start.put remote { session with limiter }
  unknown : start.roster.get? remote = none →
    finish = start ∨ ∃ session limiter,
      Session.create start.roster.nextClient remote start.roster.settings start.roster.flood now =
        .ok session ∧ session.isIdentified = false ∧
      finish = start.enrol remote { session with limiter }

theorem OnlyCounted.refl (start : Endpoint) (remote : Address) (now : Instant) :
    start.OnlyCounted remote now start where
  penalties := rfl
  outgoing := rfl
  others _ _ := rfl
  known session stored := ⟨session.limiter, ((put_eq_self_iff stored _).mpr rfl).symm⟩
  unknown _ := .inl rfl

theorem onlyCounted_put (stored : start.roster.get? remote = some session)
    (limiter : RateLimiter) :
    start.OnlyCounted remote now (start.put remote { session with limiter }) where
  penalties := rfl
  outgoing := rfl
  others other elsewhere := by rw [get?_put, if_neg elsewhere]
  known found present := by
    rw [stored, Option.some.injEq] at present
    exact ⟨limiter, by rw [present]⟩
  unknown absent := by
    rw [stored] at absent
    cases absent

theorem onlyCounted_enrol (absent : start.roster.get? remote = none)
    (made : Session.create start.roster.nextClient remote start.roster.settings
      start.roster.flood now = .ok session) (limiter : RateLimiter) :
    start.OnlyCounted remote now (start.enrol remote { session with limiter }) where
  penalties := rfl
  outgoing := rfl
  others other elsewhere := by rw [get?_enrol, if_neg elsewhere]
  known found present := by
    rw [absent] at present
    cases present
  unknown _ := .inr ⟨session, limiter, made, by rw [Session.create_eq_ok made]; rfl, rfl⟩

theorem put_enrol (endpoint : Endpoint) (remote : Address) (session next : Session) :
    (endpoint.enrol remote session).put remote next = endpoint.enrol remote next := by
  simp only [put, enrol, Roster.put, Table.insert_insert]

/-- A datagram that cannot be read is counted, unless it brings a penalty. -/
theorem handleKnown_of_unreadable (stored : endpoint.roster.get? remote = some session)
    (unreadable : Packet.decode bytes = .error fault)
    (spared : (session.limiter.check kind.trafficClass now).1 ≠ .penalize)
    (handled : endpoint.handleKnown remote kind bytes now = .ok (report, finish)) :
    report = .empty ∧ ∃ limiter, finish = endpoint.put remote { session with limiter } := by
  simp only [handleKnown, Roster.lookupOrCreate, stored, Halt.bind_eq_ok] at handled
  obtain ⟨_, known, ⟨decision, checked⟩, returned, handled⟩ := handled
  cases known
  obtain ⟨decided, rfl⟩ := Session.checkRate_eq_ok returned
  cases decision with
  | drop warnings =>
    cases handled
    exact ⟨rfl, _, rfl⟩
  | penalize => exact absurd decided.symm spared
  | accept =>
    simp only [unreadable] at handled
    cases handled
    exact ⟨rfl, _, rfl⟩

/-- A datagram that is turned away at the gates changes nothing, if its host is not banned. -/
theorem handleDatagram_of_turned_away (turned : endpoint.admits remote bytes now = false)
    (free : endpoint.isBanned remote.host now = false) :
    endpoint.handleDatagram remote bytes now = .ok (.empty, endpoint) := by
  rcases handleDatagram_of_not_admits turned with dropped | ⟨remaining, banned, -⟩
  · exact dropped
  · rw [isBanned, PenaltyBook.isBanned, banned] at free
    cases free

theorem onlyCounted_of_handleDatagram (free : endpoint.isBanned remote.host now = false)
    (peeked : PacketKind.peek bytes = .ok kind) (unreadable : Packet.decode bytes = .error fault)
    (spared : ((endpoint.limiterAt remote).check kind.trafficClass now).1 ≠ .penalize)
    (handled : endpoint.handleDatagram remote bytes now = .ok (report, finish)) :
    report = .empty ∧ endpoint.OnlyCounted remote now finish := by
  cases passes : endpoint.admits remote bytes now with
  | false =>
    rw [handleDatagram_of_turned_away passes free] at handled
    cases handled
    exact ⟨rfl, .refl _ remote now⟩
  | true =>
    obtain ⟨known, named, same⟩ := handleDatagram_of_admits passes
    rw [peeked, Except.ok.injEq] at named
    rw [same, ← named] at handled
    cases stored : endpoint.roster.get? remote with
    | some session =>
      rw [limiterAt_of_get? stored] at spared
      obtain ⟨quiet, limiter, rfl⟩ := handleKnown_of_unreadable stored unreadable spared handled
      exact ⟨quiet, onlyCounted_put stored limiter⟩
    | none =>
      rw [limiterAt_of_none stored] at spared
      rw [handleKnown_of_none stored, Halt.bind_eq_ok] at handled
      obtain ⟨session, made, handled⟩ := handled
      have enrolled : (endpoint.enrol remote session).roster.get? remote = some session :=
        Table.get?_insert_self _ _ _
      have fresh : session.limiter = .fresh endpoint.roster.flood := by
        rw [Session.create_eq_ok made]
      rw [← fresh] at spared
      obtain ⟨quiet, limiter, rfl⟩ :=
        handleKnown_of_unreadable enrolled unreadable spared handled
      rw [put_enrol]
      exact ⟨quiet, onlyCounted_enrol stored made limiter⟩

/-- From every state that a run leads to, for a host that is not banned: A datagram that is
longer than the settings allow as the endpoint raises them, that is empty, or whose first byte
names no kind changes nothing and is answered with nothing. One of a known kind that cannot be
read and brings no penalty is answered with nothing either, and all that it leaves behind is
that it was counted, and a session that has not said who it is for a peer that had none. Unless
there is no memory for this session, or the datagram cannot be counted, it is handled. -/
theorem unreadable_only_counted {settings : EndpointSettings} {operations : List Operation}
    {outcomes : List Outcome} (ran : (create settings).run operations = .ok (outcomes, endpoint))
    (remote : Address) (bytes : Bytes) (now : Instant)
    (free : endpoint.isBanned remote.host now = false) :
    (settings.validated.flood.maxPacketSize < bytes.length ∨ bytes = [] ∨
        (∀ kind : PacketKind, bytes.head? ≠ some kind.tag) →
      endpoint.handleDatagram remote bytes now = .ok (.empty, endpoint)) ∧
    ∀ (kind : PacketKind) (fault : WireFault),
      bytes.head? = some kind.tag → Packet.decode bytes = .error fault →
      ((endpoint.limiterAt remote).check kind.trafficClass now).1 ≠ .penalize →
        (∀ halt, endpoint.handleDatagram remote bytes now = .error halt ↔
          halt = .capacityOverflow ∧ endpoint.opens (.datagram remote bytes now) = true ∧
              ¬ endpoint.roster.settings.FitMemory ∨
            halt = .counterOverflow ∧ endpoint.admits remote bytes now = true ∧
              endpoint.Overcounts remote bytes now) ∧
        ∀ report finish, endpoint.handleDatagram remote bytes now = .ok (report, finish) →
          report = .empty ∧ endpoint.OnlyCounted remote now finish := by
  have flood : endpoint.settings = settings.validated :=
    view_of_run (·.settings) (fun step => by cases step <;> rfl)
      (fun opening => by cases opening <;> rfl) ran
  constructor
  · intro unfit
    refine handleDatagram_of_turned_away ?_ free
    rw [← Bool.not_eq_true]
    intro passes
    obtain ⟨kind, peeked, -⟩ := handleDatagram_of_admits passes
    have named := PacketKind.peek_eq_ok_iff.mp peeked
    rcases unfit with long | rfl | foreign
    · simp only [admits, flood, Bool.and_eq_true, decide_eq_true_eq] at passes
      exact absurd long (Nat.not_lt_of_le passes.1.1)
    · cases named
    · exact foreign kind named
  · intro kind fault named unreadable spared
    have peeked := PacketKind.peek_eq_ok_iff.mpr named
    refine ⟨fun halt => ?_, fun report finish handled =>
      onlyCounted_of_handleDatagram free peeked unreadable spared handled⟩
    rw [handleDatagram_eq_error_iff (countersFit_of_run ran remote)]
    constructor
    · intro halts
      cases halts with
      | memory opens crowded => exact .inl ⟨rfl, opens, crowded⟩
      | window passes many => exact .inr ⟨rfl, passes, many⟩
      | ban penalizes roomy few brings late =>
        have passes := (DatagramHalts.ban penalizes roomy few brings late).admits
        exact absurd ((penalizes_iff passes peeked).mp penalizes) spared
    · rintro (⟨rfl, opens, crowded⟩ | ⟨rfl, passes, many⟩)
      · exact .memory opens crowded
      · exact .window passes many

/-- A ping with a byte too many. -/
def longPing : Bytes := [12, 0, 2, 9]

/-- A peer that has greeted and one that has not send what is no packet, and a ping that is too
long. -/
theorem unreadable_only_counted_longPing :
    ∃ outcomes endpoint fault known unknown,
      greetedOnce = .ok (outcomes, endpoint) ∧ endpoint.isBanned (.v4 default) 5 = false ∧
      endpoint.handleDatagram (.v4 default 1) [119] 5 = .ok (.empty, endpoint) ∧
      longPing.head? = some PacketKind.ping.tag ∧ Packet.decode longPing = .error fault ∧
      endpoint.handleDatagram (.v4 default 1) longPing 5 = .ok (.empty, known) ∧
      known.roster.addresses = [.v4 default 1] ∧ endpoint.OnlyCounted (.v4 default 1) 5 known ∧
      endpoint.handleDatagram (.v4 default 2) longPing 5 = .ok (.empty, unknown) ∧
      unknown.roster.addresses = [.v4 default 1, .v4 default 2] ∧
      endpoint.OnlyCounted (.v4 default 2) 5 unknown := by
  have seen : greetedOnce.toOption.any (fun greeted =>
      (greeted.2.handleDatagram (.v4 default 1) longPing 5).toOption.any fun known =>
      (greeted.2.handleDatagram (.v4 default 2) longPing 5).toOption.any fun unknown =>
        !greeted.2.isBanned (.v4 default) 5 &&
        ((greeted.2.limiterAt (.v4 default 1)).check .reliable 5).1 ≠ .penalize &&
        ((greeted.2.limiterAt (.v4 default 2)).check .reliable 5).1 ≠ .penalize &&
        known.2.roster.addresses = [.v4 default 1] &&
        unknown.2.roster.addresses = [.v4 default 1, .v4 default 2]) = true := by
    decide +kernel
  obtain ⟨⟨outcomes, endpoint⟩, greeted, seen⟩ := Halt.exists_of_any seen
  obtain ⟨⟨said, known⟩, counted, seen⟩ := Halt.exists_of_any seen
  obtain ⟨⟨told, unknown⟩, opened, seen⟩ := Halt.exists_of_any seen
  simp only [Bool.and_eq_true, decide_eq_true_eq, Bool.not_eq_true'] at seen
  obtain ⟨⟨⟨⟨free, spared⟩, sparedAlso⟩, one⟩, two⟩ := seen
  have named : longPing.head? = some PacketKind.ping.tag := rfl
  obtain ⟨fault, unreadable⟩ : ∃ fault, Packet.decode longPing = .error fault := ⟨_, rfl⟩
  have foreign : ∀ kind : PacketKind, [119].head? ≠ some kind.tag := by
    rintro ⟨⟩ <;> decide
  have dropped := (unreadable_only_counted greeted (.v4 default 1) [119] 5 free).1
    (.inr (.inr foreign))
  have first := (unreadable_only_counted greeted (.v4 default 1) longPing 5 free).2 .ping fault
    named unreadable spared
  have second := (unreadable_only_counted greeted (.v4 default 2) longPing 5 free).2 .ping fault
    named unreadable sparedAlso
  obtain ⟨rfl, known⟩ := first.2 _ _ counted
  obtain ⟨rfl, unknown⟩ := second.2 _ _ opened
  exact ⟨outcomes, endpoint, fault, _, _, greeted, free, dropped, named, unreadable, counted, one,
    known, opened, two, unknown⟩

end SessionLayer.Endpoint
