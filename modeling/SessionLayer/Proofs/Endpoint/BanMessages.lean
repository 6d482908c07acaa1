import SessionLayer.Proofs.Endpoint.Notices
import SessionLayer.Proofs.Endpoint.Order
import SessionLayer.Proofs.Endpoint.Parting
import SessionLayer.Proofs.Endpoint.Rulings
import SessionLayer.Proofs.Packet.Normalised

/-!
# What a banned player is told

There are two ways on which a player hears of a ban. Whose session ends by it gets a farewell
(`Endpoint.bannedFarewell`), whoever greets later from the host gets a notice
(`Endpoint.banNotice`). Both put how long the ban lasts into the template for the language of
the player, and both are the same datagram, as long as there is a template
(`Endpoint.ban_messages_agree_iff`). Without one the farewell is a plain error, and the notice
still says that it is a ban.
-/

namespace SessionLayer.Endpoint

variable {start finish endpoint : Endpoint} {operation : Operation} {outcome : Outcome}
  {remote : Address} {host : Host} {session : Session} {bytes : Bytes} {duration : Span}
  {now : Instant} {kind : PacketKind} {report : Report} {settings : EndpointSettings}
  {locale : Option String} {template : String}

/-! ## The two texts -/

/-- The template for what players of this locale are told of a ban. -/
def banTemplate? (settings : EndpointSettings) (locale : Option String) : Option String :=
  settings.penalty.banMessage.resolve locale settings.defaultLocale

theorem bannedFarewell_of_template
    (found : banTemplate? settings session.locale? = some template) :
    bannedFarewell duration settings session =
      ⟨.banned, some (Template.fill [duration.describe] template)⟩ := by
  unfold banTemplate? at found
  rw [bannedFarewell, Session.localize, LocalizedText.format, found]
  rfl

theorem bannedFarewell_of_none (missing : banTemplate? settings session.locale? = none) :
    bannedFarewell duration settings session = .plain .error := by
  unfold banTemplate? at missing
  rw [bannedFarewell, Session.localize, LocalizedText.format, missing]
  rfl

theorem banNotice_eq (endpoint : Endpoint) (locale : Option String) (remaining : Span) :
    endpoint.banNotice locale remaining =
      ⟨.banned, (banTemplate? endpoint.settings locale).map (Template.fill [remaining.describe])⟩ :=
  rfl

/-! ## Sessions that end by a ban -/

/-- With this operation the host is banned for so long, by a command or because one of its peers
has flooded once too often. -/
inductive BansFor (start : Endpoint) (host : Host) (duration : Span) : Operation → Prop
  | ordered (now : Instant) : BansFor start host duration (.ban host duration now)
  | flooded {remote : Address} {bytes : Bytes} {now : Instant} {book : PenaltyBook} :
    remote.host = host → start.Penalizes remote (.datagram remote bytes now) →
    start.penalties.recordOffense host now = .ok (.ban duration, book) →
    BansFor start host duration (.datagram remote bytes now)

/-- Right before its sessions end by a ban: they are as they were but for their limiters, and
nothing new waits to be sent. -/
structure OnBrink (start between : Endpoint) : Prop where
  settings : between.settings = start.settings
  outgoing : between.outgoing = start.outgoing
  known : ∀ remote session, start.roster.get? remote = some session →
    ∃ limiter, between.roster.get? remote = some { session with limiter }

theorem handleKnown_of_penalize (stored : endpoint.roster.get? remote = some session)
    (harsh : (session.limiter.check kind.trafficClass now).1 = .penalize)
    (handled : endpoint.handleKnown remote kind bytes now = .ok (report, finish)) :
    ∃ limiter, (endpoint.put remote { session with limiter }).penalize remote now =
      .ok (report, finish) := by
  simp only [handleKnown, Roster.lookupOrCreate, stored, Halt.bind_eq_ok] at handled
  obtain ⟨_, known, ⟨decision, next⟩, checked, handled⟩ := handled
  cases known
  obtain ⟨decided, rfl⟩ := Session.checkRate_eq_ok checked
  obtain rfl := decided.trans harsh
  exact ⟨_, handled⟩

theorem penalize_of_ban {book : PenaltyBook}
    (penalized : endpoint.penalize remote now = .ok (report, finish))
    (recorded : endpoint.penalties.recordOffense remote.host now = .ok (.ban duration, book)) :
    finish = ({ endpoint with penalties := book }.disconnectBanned remote.host duration).2 := by
  rw [penalize, recorded] at penalized
  exact congrArg Prod.snd (Halt.pure_eq_ok.mp penalized).symm

/-- So it is where a datagram of one of the peers was counted. -/
theorem Opening.onBrink_put {opened : Endpoint} (opening : start.Opening operation opened)
    (stored : opened.roster.get? remote = some session) (limiter : RateLimiter)
    (penalties : PenaltyBook) :
    start.OnBrink { opened.put remote { session with limiter } with penalties } where
  settings := by cases opening <;> rfl
  outgoing := by cases opening <;> rfl
  known other found present := by
    have before := opening.get?_of_get? present
    show ∃ limiter, (opened.put remote _).roster.get? other = some { found with limiter }
    rw [get?_put]
    split
    · rename_i here
      subst here
      rw [stored, Option.some.injEq] at before
      subst before
      exact ⟨limiter, rfl⟩
    · exact ⟨found.limiter, before⟩

/-- A ban ends the sessions of the host, after no more than that a datagram was counted. -/
theorem BansFor.exists_onBrink (bans : start.BansFor host duration operation)
    (applied : start.apply operation = .ok (outcome, finish)) :
    ∃ between, start.OnBrink between ∧ finish = (between.disconnectBanned host duration).2 := by
  cases bans with
  | ordered now =>
    simp only [apply, ban, Halt.bind_eq_ok, Halt.pure_eq_ok] at applied
    obtain ⟨⟨report, last⟩, ⟨book, -, closed⟩, same⟩ := applied
    cases same
    exact ⟨{ start with penalties := book }, ⟨rfl, rfl, fun _ session stored => ⟨_, stored⟩⟩,
      congrArg Prod.snd closed.symm⟩
  | @flooded sender bytes now book here penalizes recorded =>
    subst here
    obtain ⟨ruling, decided, harsh⟩ := penalizes
    obtain ⟨⟨_, about, passes, peeked⟩, decision, -⟩ := ruling?_eq_some decided
    cases about
    simp only [apply, Halt.bind_eq_ok, Halt.pure_eq_ok] at applied
    obtain ⟨⟨report, last⟩, handled, same⟩ := applied
    cases same
    obtain ⟨kind, opened, session, named, opening, stored, limiter, handled⟩ :=
      exists_opened passes handled
    rw [peeked, Except.ok.injEq] at named
    rw [decision, ← limiter, named] at harsh
    obtain ⟨counted, penalized⟩ := handleKnown_of_penalize stored harsh handled
    rw [← opening.penalties_eq] at recorded
    exact ⟨_, opening.onBrink_put stored counted book, penalize_of_ban penalized recorded⟩

/-! ## Both messages -/

/-- A session that ends by a ban is sent what belongs to its language. -/
theorem waitingFor_disconnectBanned (duration : Span)
    (stored : endpoint.roster.get? remote = some session) (rests : session.AtRest) :
    (endpoint.disconnectBanned remote.host duration).2.waitingFor remote =
      endpoint.waitingFor remote ++
        [Session.farewellDatagram (some (bannedFarewell duration endpoint.settings session))] := by
  have distinct : (endpoint.roster.addresses.filter fun other => other.host = remote.host).Nodup :=
    endpoint.roster.sessions.nodup_keys.filter _
  have member : remote ∈ endpoint.roster.addresses.filter fun other => other.host = remote.host :=
    List.mem_filter.mpr ⟨Table.mem_keys_of_get? stored, decide_eq_true rfl⟩
  obtain ⟨-, same⟩ := (visitAll_eq_ok_iff distinct).mp
    (atEach_eq_visitAll (visitAt_closeBanned duration) _ endpoint)
  have waiting := waitingFor_tour distinct
    (endpoint.visitFrom (parting (bannedFarewell duration) .banned)) endpoint remote
  rw [same, if_pos member, visitFrom_of_get? stored rfl] at waiting
  exact waiting.trans (congrArg _ (rests.takeOutgoing_disconnect _))

/-- A peer that greets from a banned host and is due a notice gets it. -/
theorem handleDatagram_of_greeting {sequence : Sequence} {greeting : Hello} {notice : Bytes}
    (greets : Packet.decode bytes = .ok (.hello sequence greeting))
    (fits : bytes.length ≤ endpoint.settings.flood.maxPacketSize)
    (lasts : endpoint.penalties.banRemaining remote.host now = some duration)
    (granted : (endpoint.penalties.grantNotice remote.host now).1 = true)
    (written : (Packet.disconnect
      (some (endpoint.banNotice greeting.language.locale? duration))).encode = .ok notice) :
    ∃ told, endpoint.handleDatagram remote bytes now = .ok (.empty, told) ∧
      told.waitingFor remote = endpoint.waitingFor remote ++ [notice] := by
  have peeked := Packet.peek_of_decode greets
  have spoken : helloLocale? bytes = greeting.language.locale? := by
    rw [helloLocale?, greets]
  have answered : endpoint.onBanned remote bytes duration now =
      { endpoint with
        penalties := (endpoint.penalties.grantNotice remote.host now).2 }.enqueue remote
          [notice] := by
    simp only [onBanned, peeked, Packet.kind, granted, if_true, rejectBanned, spoken]
    have same (penalties : PenaltyBook) : ({ endpoint with penalties }.banNotice
        greeting.language.locale? duration) =
          endpoint.banNotice greeting.language.locale? duration := rfl
    rw [same, written]
  refine ⟨endpoint.onBanned remote bytes duration now, ?_, ?_⟩
  · rw [handleDatagram, if_neg (Nat.not_lt_of_le fits), lasts]
  · rw [answered, waitingFor, toList_enqueue, List.filter_append, List.map_append]
    simp [waitingFor]

/-- A notice is read as what it says. -/
theorem decode_notice {farewell : Farewell} {notice : Bytes}
    (written : (Packet.disconnect (some farewell)).encode = .ok notice)
    (canonical : farewell.reason.Canonical) :
    Session.farewellDatagram (some farewell) = notice ∧
      Packet.decode notice = .ok (.disconnect (some farewell)) := by
  have same : Session.farewellDatagram (some farewell) = notice := by
    rw [Session.farewellDatagram, written]
  have fits : farewell.body.length < 65536 := by
    obtain ⟨body, encoded, -⟩ := Except.map_eq_ok.mp written
    simp only [Packet.encodeBody, Farewell.encode] at encoded
    split at encoded
    · assumption
    · cases encoded
  refine ⟨same, ?_⟩
  rw [← same, Session.decode_farewellDatagram, Farewell.heard_eq_some_iff.mpr ⟨canonical, fits⟩]

/-- What is sent to a client whose session ends by a ban, beside a notice in its language. -/
theorem messages_agree_iff {notice : Bytes} (spoken : session.locale? = locale)
    (written : (Packet.disconnect (some ⟨.banned,
      (banTemplate? settings locale).map (Template.fill [duration.describe])⟩)).encode =
        .ok notice) :
    (Session.farewellDatagram (some (bannedFarewell duration settings session)) = notice ↔
      banTemplate? settings locale ≠ none) ∧
    (∀ template, banTemplate? settings locale = some template →
      Packet.decode notice = .ok (.disconnect
        (some ⟨.banned, some (Template.fill [duration.describe] template)⟩))) ∧
    (banTemplate? settings locale = none →
      Packet.decode (Session.farewellDatagram
        (some (bannedFarewell duration settings session))) =
          .ok (.disconnect (some (.plain .error))) ∧
      Packet.decode notice = .ok (.disconnect (some (.plain .banned)))) := by
  cases found : banTemplate? settings locale with
  | some template =>
    rw [found] at written
    obtain ⟨same, read⟩ := decode_notice written rfl
    rw [bannedFarewell_of_template (by rw [spoken, found])]
    refine ⟨⟨nofun, fun _ => same⟩, fun other chosen => ?_, nofun⟩
    cases chosen
    exact read
  | none =>
    rw [found] at written
    obtain ⟨-, read⟩ := decode_notice written rfl
    have readError := Session.decode_farewellDatagram (.plain .error)
    rw [bannedFarewell_of_none (by rw [spoken, found])]
    refine ⟨⟨fun same => ?_, fun some => absurd rfl some⟩, nofun, fun _ => ⟨readError, read⟩⟩
    rw [same, read] at readError
    cases readError

/-- Take two endpoints with the same settings, in any state that a run leads to. On the one the
host of a client that has said who it is gets banned for some time, by a command or for
flooding; on the other a peer greets in the same language, whose host is banned for that time
from now on, and is due a notice that can be encoded. Then the client is sent one farewell and
the peer is sent the notice, and they are the same datagram exactly if there is a template for
the language or for the usual locale. If there is, both say that this is a ban, and what the
template says with the time put in. If there is none, the farewell is a plain error, but the
notice a ban without a text. -/
theorem ban_messages_agree_iff {settings : EndpointSettings} {operations others : List Operation}
    {outcomes results : List Outcome} {start finish other : Endpoint} {operation : Operation}
    {outcome : Outcome} {remote visitor : Address} {session : Session}
    {identity : ClientIdentity} {duration : Span} {bytes notice : Bytes} {sequence : Sequence}
    {greeting : Hello} {now : Instant}
    (ran : (create settings).run operations = .ok (outcomes, start))
    (stored : start.roster.get? remote = some session)
    (known : session.identity = some identity)
    (bans : start.BansFor remote.host duration operation)
    (applied : start.apply operation = .ok (outcome, finish))
    (ranAlso : (create settings).run others = .ok (results, other))
    (greets : Packet.decode bytes = .ok (.hello sequence greeting))
    (spoken : greeting.language = identity.language)
    (fits : bytes.length ≤ settings.validated.flood.maxPacketSize)
    (lasts : other.penalties.banRemaining visitor.host now = some duration)
    (granted : (other.penalties.grantNotice visitor.host now).1 = true)
    (written : (Packet.disconnect
      (some (other.banNotice greeting.language.locale? duration))).encode = .ok notice) :
    ∃ farewell told,
      finish.waitingFor remote = start.waitingFor remote ++ [farewell] ∧
      other.handleDatagram visitor bytes now = .ok (.empty, told) ∧
      told.waitingFor visitor = other.waitingFor visitor ++ [notice] ∧
      (farewell = notice ↔
        banTemplate? settings.validated identity.language.locale? ≠ none) ∧
      (∀ template, banTemplate? settings.validated identity.language.locale? = some template →
        Packet.decode notice = .ok (.disconnect
          (some ⟨.banned, some (Template.fill [duration.describe] template)⟩))) ∧
      (banTemplate? settings.validated identity.language.locale? = none →
        Packet.decode farewell = .ok (.disconnect (some (.plain .error))) ∧
        Packet.decode notice = .ok (.disconnect (some (.plain .banned)))) := by
  have chosen : start.settings = settings.validated := ownSettings_of_run ran
  have chosenAlso : other.settings = settings.validated := ownSettings_of_run ranAlso
  rw [← chosenAlso] at fits
  obtain ⟨told, answered, noticed⟩ := handleDatagram_of_greeting greets fits lasts granted written
  obtain ⟨between, brink, rfl⟩ := bans.exists_onBrink applied
  obtain ⟨limiter, present⟩ := brink.known remote session stored
  have rests := atRest_of_run ran remote session stored
  have ended := waitingFor_disconnectBanned duration present
    ⟨rests.empty, rests.steady.of_eq rfl rfl rfl, rests.unsaid⟩
  have waits : between.waitingFor remote = start.waitingFor remote := by
    rw [waitingFor, brink.outgoing]
    rfl
  have speaks : Session.locale? { session with limiter } = identity.language.locale? := by
    rw [Session.locale?, known]
    rfl
  rw [waits, brink.settings, chosen] at ended
  rw [banNotice_eq, chosenAlso, spoken] at written
  exact ⟨_, told, ended, answered, noticed, messages_agree_iff speaks written⟩

/-- Settings without a template for bans. -/
def speechless : EndpointSettings := { penalty := { banMessage := .empty } }

/-- A player whose session ends by a ban of an hour is told of an error; it greets again at once,
and is told of a ban. -/
theorem ban_messages_agree_iff_speechless :
    ∃ outcomes start results other outcome finish farewell told,
      (create speechless).run [knock 1 0, .drain] = .ok (outcomes, start) ∧
      start.apply (.ban (.v4 default) (Span.ofSeconds 3600) 0) = .ok (outcome, finish) ∧
      (create speechless).run [.ban (.v4 default) (Span.ofSeconds 3600) 0] =
        .ok (results, other) ∧
      finish.waitingFor (.v4 default 1) = start.waitingFor (.v4 default 1) ++ [farewell] ∧
      other.handleDatagram (.v4 default 1) [8, 0, 1, 0, 0, 0, 0, 0, 0] 0 = .ok (.empty, told) ∧
      told.waitingFor (.v4 default 1) =
        other.waitingFor (.v4 default 1) ++ [[9, 1, 1, 0, 0, 6]] ∧
      farewell ≠ [9, 1, 1, 0, 0, 6] ∧
      Packet.decode farewell = .ok (.disconnect (some (.plain .error))) := by
  have seen : ((create speechless).run [knock 1 0, .drain]).toOption.any (fun start =>
      ((create speechless).run [.ban (.v4 default) (Span.ofSeconds 3600) 0]).toOption.any
        fun other =>
      (start.2.apply (.ban (.v4 default) (Span.ofSeconds 3600) 0)).toOption.any fun _ =>
        (start.2.roster.get? (.v4 default 1)).any (fun session =>
          session.identity.any fun identity => identity.language = .english) &&
        other.2.penalties.banRemaining (Address.host (.v4 default 1)) 0 =
          some (Span.ofSeconds 3600) &&
        (other.2.penalties.grantNotice (Address.host (.v4 default 1)) 0).1 &&
        other.2.banNotice Language.english.locale? (Span.ofSeconds 3600) = .plain .banned) =
      true := by
    decide +kernel
  obtain ⟨⟨outcomes, start⟩, ran, seen⟩ := Halt.exists_of_any seen
  obtain ⟨⟨results, other⟩, ranAlso, seen⟩ := Halt.exists_of_any seen
  obtain ⟨⟨outcome, finish⟩, applied, seen⟩ := Halt.exists_of_any seen
  simp only [Bool.and_eq_true, decide_eq_true_eq, Option.any_eq_true] at seen
  obtain ⟨⟨⟨⟨session, stored, identity, known, english⟩, lasts⟩, granted⟩, notice⟩ := seen
  have written : (Packet.disconnect (some (other.banNotice Language.english.locale?
      (Span.ofSeconds 3600)))).encode = .ok [9, 1, 1, 0, 0, 6] := by
    rw [notice]
    rfl
  have greets : ∃ sequence greeting, Packet.decode [8, 0, 1, 0, 0, 0, 0, 0, 0] =
      .ok (.hello sequence greeting) ∧ greeting.language = .english := ⟨_, _, rfl, rfl⟩
  obtain ⟨sequence, greeting, greets, spoken⟩ := greets
  obtain ⟨farewell, told, ended, answered, noticed, agree, -, missing⟩ :=
    ban_messages_agree_iff ran stored known (.ordered 0) applied ranAlso greets
      (spoken.trans english.symm) (by decide) lasts granted (by rwa [spoken])
  have none : banTemplate? speechless.validated identity.language.locale? = none := by
    rw [english]
    rfl
  refine ⟨outcomes, start, results, other, outcome, finish, farewell, told, ran, applied, ranAlso,
    ended, answered, noticed, fun same => agree.mp same none, (missing none).1⟩

end SessionLayer.Endpoint
