import SessionLayer.Proofs.Endpoint.Outbox
import SessionLayer.Proofs.Endpoint.Stored
import SessionLayer.Proofs.Packet.Written

/-!
# What is said at parting

When the server ends the session of a client, the application is told a cause, and the peer
is sent a farewell. Both come from the same farewell, but a farewell with a text that does
not fit its frame goes out without its reason and its text, while the application is told
all of it. `Endpoint.parting_told_iff` says what is sent on each of the ways on which a
session ends, and exactly when the two agree.
-/

namespace SessionLayer

/-! ## What a farewell is read as -/

namespace Farewell

/-- What the peer reads where this farewell goes out: nothing of it if it does not fit its
frame. -/
def heard (farewell : Farewell) : Option Farewell :=
  if farewell.body.length < 65536 then some farewell.normal else none

theorem heard_eq_some_iff {farewell : Farewell} :
    farewell.heard = some farewell ↔
      farewell.reason.Canonical ∧ farewell.body.length < 65536 := by
  rw [heard]
  split
  · rename_i fits
    rw [Option.some.injEq, normal_eq_self_iff, and_iff_left fits]
  · rename_i large
    simp [large]

theorem utf8ByteSize_lt_length_body {farewell : Farewell} {text : String}
    (said : farewell.message = some text) : text.utf8ByteSize < farewell.body.length := by
  simp only [body, List.length_cons, said, Option.map_some, Option.getD_some, Wire.text,
    List.length_append, Utf8.length_encode]
  omega

end Farewell

/-- What goes out at the end of a session is read as this, whatever its reason and however
long its text. -/
theorem Session.decode_farewellDatagram (farewell : Farewell) :
    Packet.decode (farewellDatagram (some farewell)) = .ok (.disconnect farewell.heard) := by
  rw [farewellDatagram, Farewell.heard]
  cases written : (Packet.disconnect (some farewell)).encode with
  | ok datagram =>
    obtain ⟨body, encoded, -⟩ := Except.map_eq_ok.mp written
    have fits : farewell.body.length < 65536 := by
      simp only [Packet.encodeBody, Farewell.encode] at encoded
      split at encoded
      · assumption
      · cases encoded
    have short : ∀ text ∈ (Packet.disconnect (some farewell)).texts,
        text.utf8ByteSize < 2 ^ 32 := by
      intro text among
      have within := Farewell.utf8ByteSize_lt_length_body (Option.mem_toList.mp among)
      omega
    rw [if_pos fits]
    exact Packet.decode_encode short written
  | error fault =>
    have large : ¬ farewell.body.length < 65536 := by
      intro fits
      have encoded := Except.map_eq_error.mp written
      simp [Packet.encodeBody, Farewell.encode, fits] at encoded
    rw [if_neg large]
    rfl

/-- The farewell that the server sends where a session ends for this cause. -/
def DisconnectCause.parting (cause : DisconnectCause) : Farewell :=
  cause.farewell?.getD (.plain .none)

/-- What is read where a session ends for a cause of the server's agrees with the cause
exactly if the farewell in it is read as it is. -/
theorem DisconnectCause.agrees_iff (cause : DisconnectCause) :
    (cause.reason = (cause.parting.heard.map Farewell.reason).getD .none ∧
        ∀ farewell ∈ cause.farewell?, cause.parting.heard = some farewell) ↔
      ∀ farewell ∈ cause.farewell?,
        farewell.reason.Canonical ∧ farewell.body.length < 65536 := by
  have bare : (Farewell.plain .none).heard = some (.plain .none) := rfl
  simp only [reason, parting]
  cases said : cause.farewell? with
  | none =>
    rw [Option.getD_none, bare]
    simp [Farewell.plain]
  | some farewell =>
    simp only [Option.mem_some_iff, forall_eq', Option.getD_some, Option.map_some,
      Farewell.heard_eq_some_iff, and_iff_right_iff_imp]
    intro read
    rw [Farewell.heard_eq_some_iff.mpr read]
    rfl

/-! ## Sessions between operations -/

namespace Session

/-- A session that has nothing to send and has not been ended. -/
structure AtRest (session : Session) : Prop where
  empty : session.outbox = .empty
  steady : session.Steady
  unsaid : session.sentDisconnect = false

theorem atRest_of_create {client : ClientId} {remote : Address} {settings : SessionSettings}
    {flood : FloodSettings} {now : Instant} {session : Session}
    (created : create client remote settings flood now = .ok session) : session.AtRest := by
  have steady := Steady.of_create created
  rw [create_eq_ok created] at steady ⊢
  exact ⟨rfl, steady, rfl⟩

variable {session next : Session}

theorem Does.sentDisconnect_eq (does : session.Does next) :
    next.sentDisconnect = session.sentDisconnect := by
  cases does with
  | checked checked => rw [(checkRate_eq_ok checked).2]
  | heard packet now _ => rw [handlePacket_frame]
  | sent returned => cases sending returned <;> rfl
  | kept returned _ =>
    cases looking returned with
    | keptUp => rw [expireGaps_frame]; rfl
    | _ => rfl
  | seated room | unseated => rfl

/-- A session that goes on is at rest again once its datagrams are fetched, and none of them
is a farewell. -/
theorem AtRest.of_does (rests : session.AtRest) (does : session.Does next) :
    next.takeOutgoing.2.AtRest ∧ ∀ datagram ∈ next.takeOutgoing.1, ¬ IsFarewell datagram := by
  obtain ⟨datagrams, goesOn⟩ := does.exists_goesOn
  have queues := goesOn.queues
  rw [Queues, rests.empty, Queue.toList_empty, List.nil_append] at queues
  refine ⟨⟨rfl, (goesOn.steady rests.steady).of_eq rfl rfl rfl, ?_⟩, ?_⟩
  · exact does.sentDisconnect_eq.trans rests.unsaid
  · rw [takeOutgoing, queues]
    exact goesOn.common rests.steady

/-- A session at rest that is ended sends the farewell and nothing else. -/
theorem AtRest.takeOutgoing_disconnect (rests : session.AtRest) (farewell : Farewell) :
    (session.disconnect (some farewell)).2.takeOutgoing.1 =
      [farewellDatagram (some farewell)] := by
  have opened : session.state.isOpen = true := by
    rw [rests.steady.stage]
    split <;> rfl
  simp [disconnect, takeOutgoing, post, rests.unsaid, opened, rests.empty]

end Session

/-- A turn is something that a session does, and its datagrams are fetched with it. -/
theorem Turn.exists_does {remote : Address} {deed : Deed} {session next : Session}
    {events : List Event} {sent : List Bytes} (turn : Turn remote deed session events sent next) :
    ∃ raw, session.Does raw ∧
      (sent = raw.takeOutgoing.1 ∧ next = raw.takeOutgoing.2 ∨
        sent = [] ∧ next = raw ∧ raw.outbox = session.outbox) := by
  cases turn with
  | checked checked =>
    exact ⟨_, .checked checked, .inr ⟨rfl, rfl, by rw [(Session.checkRate_eq_ok checked).2]⟩⟩
  | received packet now stays => exact ⟨_, .heard packet now stays, .inl ⟨rfl, rfl⟩⟩
  | sent returned => exact ⟨_, .sent returned, .inl ⟨rfl, rfl⟩⟩
  | refused returned =>
    refine ⟨_, .sent returned, .inr ⟨rfl, rfl, ?_⟩⟩
    cases Session.sending returned <;> rfl
  | kept returned alive => exact ⟨_, .kept returned alive, .inl ⟨rfl, rfl⟩⟩
  | seated room => exact ⟨_, .seated room, .inr ⟨rfl, rfl, rfl⟩⟩
  | unseated => exact ⟨_, .unseated, .inr ⟨rfl, rfl, rfl⟩⟩

theorem Turn.atRest {remote : Address} {deed : Deed} {session next : Session}
    {events : List Event} {sent : List Bytes} (turn : Turn remote deed session events sent next)
    (rests : session.AtRest) : next.AtRest ∧ ∀ datagram ∈ sent, ¬ IsFarewell datagram := by
  obtain ⟨raw, does, ⟨rfl, rfl⟩ | ⟨rfl, rfl, same⟩⟩ := turn.exists_does
  · exact rests.of_does does
  · have again := (rests.of_does does).1
    exact ⟨⟨same.trans rests.empty, again.steady.of_eq rfl rfl rfl, again.unsaid⟩, nofun⟩

/-- A turn tells of nobody who is gone. -/
theorem Turn.disconnected_notMem {remote : Address} {deed : Deed} {session next : Session}
    {events : List Event} {sent : List Bytes} (turn : Turn remote deed session events sent next)
    (client : ClientId) (other : Address) (cause : DisconnectCause) :
    .disconnected client other cause ∉ events := by
  intro told
  cases turn.telling with
  | nothing _ => cases told
  | identified _ _ _ => cases List.mem_singleton.mp told
  | messages bodies _ _ =>
    obtain ⟨body, -, same⟩ := List.mem_map.mp told
    cases same

/-- A session that the server ends for an identified client queues the farewell that
belongs to the cause. -/
theorem Ending.queues_parting {session next : Session} {cause : DisconnectCause}
    (ending : Ending session cause next) (rests : session.AtRest)
    (known : next.isIdentified = true) (ours : ∀ farewell, cause ≠ .byPeer farewell) :
    next.takeOutgoing.1 = [Session.farewellDatagram (some cause.parting)] := by
  have identified : session.isIdentified = true := by
    rwa [← Session.isIdentified_of_identity_eq ending.identity_eq]
  cases ending with
  | left _ _ _ => exact absurd rfl (ours _)
  | idle unknown _ => exact absurd identified (by simp [unknown])
  | rateLimited farewell | banned farewell | byServer farewell =>
    exact rests.takeOutgoing_disconnect farewell
  | unresponsive _ => exact rests.takeOutgoing_disconnect (.plain .none)

/-! ## The last word -/

/-- Of the datagrams for this peer, the last one is the farewell and no other is one. -/
def LastWord (queued : List (Address × Bytes)) (remote : Address) (farewell : Bytes) : Prop :=
  ∃ common : List Bytes,
    queued.filter (fun sent => sent.1 = remote) =
      (common ++ [farewell]).map (fun bytes => (remote, bytes)) ∧
    ∀ datagram ∈ common, ¬ IsFarewell datagram

namespace LastWord

variable {queued : List (Address × Bytes)} {remote other : Address} {farewell : Bytes}

theorem filter_sent (sent : List Bytes) (remote : Address) :
    (sent.map fun bytes => (remote, bytes)).filter (fun sent => sent.1 = remote) =
      sent.map fun bytes => (remote, bytes) :=
  List.filter_eq_self.mpr fun datagram among => by
    obtain ⟨bytes, -, rfl⟩ := List.mem_map.mp among
    exact decide_eq_true rfl

theorem filter_elsewhere {sent : List Bytes} (elsewhere : other ≠ remote) :
    (sent.map fun bytes => (remote, bytes)).filter (fun sent => sent.1 = other) = [] :=
  List.filter_eq_nil_iff.mpr fun datagram among => by
    obtain ⟨bytes, -, rfl⟩ := List.mem_map.mp among
    simp [Ne.symm elsewhere]

/-- Common datagrams before them do not change the last word. -/
theorem of_common {sent : List Bytes} (common : ∀ datagram ∈ sent, ¬ IsFarewell datagram)
    (word : LastWord queued other farewell) :
    LastWord (sent.map (fun bytes => (remote, bytes)) ++ queued) other farewell := by
  obtain ⟨before, filtered, harmless⟩ := word
  rw [LastWord, List.filter_append, filtered]
  by_cases here : other = remote
  · subst here
    refine ⟨sent ++ before, ?_, fun datagram among => ?_⟩
    · rw [filter_sent, List.append_assoc]
      exact List.map_append.symm
    · exact (List.mem_append.mp among).elim (common datagram) (harmless datagram)
  · exact ⟨before, by rw [filter_elsewhere here, List.nil_append], harmless⟩

end LastWord

namespace Endpoint

variable {start middle finish : Endpoint} {operation : Operation} {operations : List Operation}
  {outcome : Outcome} {outcomes : List Outcome} {report : Report}

/-- These datagrams go with this report: a peer that has no session is sent nothing and
nobody is told of it, and where a session is reported to have been ended by the server, the
farewell that belongs to the cause is the last word to its peer. -/
structure GoesWith (start : Endpoint) (report : Report) (queued : List (Address × Bytes)) :
    Prop where
  silent : ∀ remote, start.roster.get? remote = none →
    queued.filter (fun sent => sent.1 = remote) = [] ∧
      ∀ client cause, .disconnected client remote cause ∉ report.events
  told : ∀ client remote cause, .disconnected client remote cause ∈ report.events →
    (∀ farewell, cause ≠ .byPeer farewell) →
    LastWord queued remote (Session.farewellDatagram (some cause.parting))

/-- All sessions of the endpoint are at rest. -/
def AtRest (endpoint : Endpoint) : Prop :=
  ∀ remote session, endpoint.roster.get? remote = some session → session.AtRest

theorem goesWith_empty (endpoint : Endpoint) : endpoint.GoesWith .empty [] :=
  ⟨fun _ _ => ⟨rfl, fun _ _ told => by cases told⟩, fun _ _ _ told => by cases told⟩

theorem ne_of_absent {remote other : Address} {session : Session}
    (stored : start.roster.get? remote = some session)
    (absent : start.roster.get? other = none) : other ≠ remote := by
  intro same
  rw [same, stored] at absent
  cases absent

/-- A turn of one session, and what comes after it. -/
theorem GoesWith.turned {remote : Address} {deed : Deed} {session next : Session}
    {events : List Event} {sent : List Bytes} {queued : List (Address × Bytes)}
    (stored : start.roster.get? remote = some session)
    (turn : Turn remote deed session events sent next)
    (common : ∀ datagram ∈ sent, ¬ IsFarewell datagram)
    (rest : ((start.put remote next).enqueue remote sent).GoesWith report queued) :
    start.GoesWith (.ofEvents events ++ report)
      (sent.map (fun bytes => (remote, bytes)) ++ queued) where
  silent other absent := by
    have elsewhere := ne_of_absent stored absent
    have absentStill : ((start.put remote next).enqueue remote sent).roster.get? other = none :=
      (get?_put start remote other next).trans ((if_neg elsewhere).trans absent)
    obtain ⟨none, untold⟩ := rest.silent other absentStill
    refine ⟨?_, fun client cause told => ?_⟩
    · rw [List.filter_append, LastWord.filter_elsewhere elsewhere, none, List.nil_append]
    · exact (List.mem_append.mp told).elim (turn.disconnected_notMem client other cause)
        (untold client cause)
  told client other cause told ours :=
    (List.mem_append.mp told).elim
      (fun here => absurd here (turn.disconnected_notMem client other cause))
      fun later => .of_common common (rest.told client other cause later ours)

/-- The end of one session, and what comes after it. -/
theorem GoesWith.ended {remote : Address} {session next : Session} {cause : DisconnectCause}
    {queued : List (Address × Bytes)} (rests : start.AtRest)
    (stored : start.roster.get? remote = some session) (ending : Ending session cause next)
    (rest : (start.release remote next).GoesWith report queued) :
    start.GoesWith (farewellReport start.rooms remote next cause ++ report)
      (next.takeOutgoing.1.map (fun bytes => (remote, bytes)) ++ queued) := by
  have gone (other : Address) : (start.release remote next).roster.get? other =
      if other = remote then none else start.roster.get? other := get?_release ..
  have here {client : ClientId} {other : Address} {reason : DisconnectCause}
      (told : .disconnected client other reason ∈
        (farewellReport start.rooms remote next cause).events) :
      next.isIdentified = true ∧ other = remote ∧ reason = cause := by
    rw [events_farewellReport] at told
    split at told
    · rename_i known
      cases List.mem_singleton.mp told
      exact ⟨known, rfl, rfl⟩
    · cases told
  obtain ⟨none, untold⟩ := rest.silent remote (by rw [gone, if_pos rfl])
  constructor
  · intro other absent
    have elsewhere := ne_of_absent stored absent
    obtain ⟨nothing, quiet⟩ := rest.silent other (by rw [gone, if_neg elsewhere, absent])
    refine ⟨?_, fun client reason told => ?_⟩
    · rw [List.filter_append, LastWord.filter_elsewhere elsewhere, nothing, List.nil_append]
    · exact (List.mem_append.mp told).elim (fun first => elsewhere (here first).2.1)
        (quiet client reason)
  · intro client other reason told ours
    rcases List.mem_append.mp told with first | later
    · obtain ⟨known, rfl, rfl⟩ := here first
      rw [ending.queues_parting (rests _ _ stored) known ours]
      refine ⟨[], ?_, nofun⟩
      rw [List.filter_append, LastWord.filter_sent, none, List.append_nil, List.nil_append]
    · have elsewhere : other ≠ remote := by
        rintro rfl
        exact untold client reason later
      obtain ⟨common, filtered, harmless⟩ := rest.told client other reason later ours
      exact ⟨common, by
        rw [List.filter_append, LastWord.filter_elsewhere elsewhere, List.nil_append, filtered],
        harmless⟩

/-- A kind of step that concerns a session or the penalties of a host, and nothing else. -/
def Plain (deed : Deed) : Prop := deed ≠ .noticed ∧ deed ≠ .aside

/-- What goes out in a course goes with what is told of it. -/
theorem goesWith_of_course {allowed : Host → Deed → Prop} (rests : start.AtRest)
    (plain : ∀ host deed, allowed host deed → Plain deed)
    (course : Course allowed start report finish) :
    ∃ queued, finish.outgoing.toList = start.outgoing.toList ++ queued ∧
      start.GoesWith report queued := by
  -- From the last step backwards: what follows says nothing of a peer whose session has ended,
  -- so the farewell of an ended session stays the last word.
  induction course with
  | stay endpoint => exact ⟨[], (List.append_nil _).symm, goesWith_empty endpoint⟩
  | @step start middle finish host deed first rest one may _ ih =>
    cases one with
    | @turned _ remote _ session next events sent stored turn =>
      obtain ⟨nextAtRest, common⟩ := turn.atRest (rests _ _ stored)
      obtain ⟨queued, out, later⟩ := ih (stored_change rests (get?_put _ _ · _) fun _ same => by
        cases same
        exact nextAtRest)
      refine ⟨_, ?_, later.turned stored turn common⟩
      rw [out, toList_enqueue, List.append_assoc]
      rfl
    | @ended _ remote session next cause stored ending =>
      obtain ⟨queued, out, later⟩ := ih
        (stored_change rests (get?_release _ _ · _) fun _ none => by cases none)
      refine ⟨_, ?_, later.ended rests stored ending⟩
      rw [out, release, toList_enqueue, List.append_assoc]
    | judged _ =>
      obtain ⟨queued, out, later⟩ := ih rests
      rw [Report.empty_append]
      exact ⟨queued, out, later.silent, later.told⟩
    | noticed _ _ => exact absurd rfl (plain _ _ may).1
    | aside _ _ _ _ => exact absurd rfl (plain _ _ may).2

/-! ## Operations -/

theorem atRest_of_run {settings : EndpointSettings}
    (ran : (create settings).run operations = .ok (outcomes, start)) : start.AtRest :=
  stored_of_run Session.atRest_of_create (fun turn rests => (turn.atRest rests).1) ran
    fun _ _ stored => by cases stored

/-- This report comes from an opening and a course that concerns sessions and penalties
only, and nothing goes out after it. -/
def Plainly (start : Endpoint) (operation : Operation) (report : Report) (finish : Endpoint) :
    Prop :=
  ∃ opened closed allowed, Opening start operation opened ∧
    Course allowed opened report closed ∧ (∀ host deed, allowed host deed → Plain deed) ∧
    finish.outgoing = closed.outgoing

theorem plainly_of_datagram {remote : Address} {bytes : Bytes} {now : Instant}
    (h : start.handleDatagram remote bytes now = .ok (report, finish)) :
    report = .empty ∨ start.Plainly (.datagram remote bytes now) report finish := by
  have known {opened : Endpoint} {session : Session} {kind : PacketKind}
      (opening : Opening start (.datagram remote bytes now) opened)
      (stored : opened.roster.get? remote = some session)
      (handled : opened.handleKnown remote kind bytes now = .ok (report, finish)) :
      start.Plainly (.datagram remote bytes now) report finish :=
    ⟨opened, finish, fun _ => Plain, opening,
      course_handleKnown (by simp [Plain]) stored handled, fun _ _ may => may, rfl⟩
  cases passes : start.admits remote bytes now with
  | false =>
    rcases handleDatagram_of_not_admits passes with dropped | ⟨remaining, -, refused⟩
    · rw [dropped] at h
      cases h
      exact .inl rfl
    · rw [refused] at h
      cases h
      exact .inl rfl
  | true =>
    obtain ⟨kind, -, same⟩ := handleDatagram_of_admits passes
    rw [same] at h
    cases found : start.roster.get? remote with
    | some session => exact .inr (known (.known (by simp [opens, found])) found h)
    | none =>
      rw [handleKnown_of_none found, Halt.bind_eq_ok] at h
      obtain ⟨session, made, h⟩ := h
      exact .inr (known (.fresh (by simp [opens, found, passes]) made)
        (Table.get?_insert_self _ _ _) h)

theorem plainly_of_apply (h : start.apply operation = .ok (outcome, finish)) :
    outcome.report = .empty ∨ start.Plainly operation outcome.report finish := by
  have plainly (plain : ∀ deed ∈ operation.deeds, Plain deed) :
      start.Plainly operation outcome.report finish := by
    obtain ⟨opened, opening, course⟩ := course_of_apply h
    exact ⟨opened, finish, _, opening, course, fun _ deed may => plain deed may.2, rfl⟩
  cases operation with
  | datagram remote bytes now =>
    simp only [apply, Halt.bind_eq_ok, Halt.pure_eq_ok] at h
    obtain ⟨⟨report, finish⟩, handled, h⟩ := h
    cases h
    exact plainly_of_datagram handled
  | sweep now =>
    simp only [apply, Halt.bind_eq_ok, Halt.pure_eq_ok] at h
    obtain ⟨⟨report, finish⟩, swept, h⟩ := h
    cases h
    obtain ⟨closed, visited, rfl⟩ := sweep_eq_ok.mp swept
    exact .inr ⟨start, closed, fun _ => Plain, .known rfl,
      course_sweepAll (fun _ _ => by simp [Plain]) visited, fun _ _ may => may, rfl⟩
  | ensureRoom name | dropRoom name | drain =>
    cases h
    exact .inl rfl
  | _ => exact .inr (plainly (by simp [Operation.deeds, Plain]))

/-- In every run from the start, where an operation reports that the server has ended the
session of a client, the last of the datagrams that it queues for the peer is a farewell and
the others are none. The farewell is read as `Farewell.heard`. It gives the reason that was
reported, and all of the farewell that was reported, exactly if that one fits its frame and
its reason is the one that its number on the wire stands for. -/
theorem parting_told_iff {settings : EndpointSettings}
    (ran : (create settings).run operations = .ok (outcomes, start))
    (applied : start.apply operation = .ok (outcome, finish)) {client : ClientId}
    {remote : Address} {cause : DisconnectCause}
    (told : .disconnected client remote cause ∈ outcome.report.events)
    (ours : ∀ farewell, cause ≠ .byPeer farewell) :
    ∃ queued datagram, finish.outgoing.toList = start.outgoing.toList ++ queued ∧
      LastWord queued remote datagram ∧
      Packet.decode datagram = .ok (.disconnect cause.parting.heard) ∧
      ((cause.reason = (cause.parting.heard.map Farewell.reason).getD .none ∧
          ∀ farewell ∈ cause.farewell?, cause.parting.heard = some farewell) ↔
        ∀ farewell ∈ cause.farewell?,
          farewell.reason.Canonical ∧ farewell.body.length < 65536) := by
  have rests := atRest_of_run ran
  rcases plainly_of_apply applied with silent | ⟨opened, closed, _, opening, course, plain, out⟩
  · rw [silent] at told
    cases told
  have openedAtRest : opened.AtRest :=
    stored_of_opening (fun _ made => Session.atRest_of_create made) opening rests
  have waits : opened.outgoing = start.outgoing := by cases opening <;> rfl
  obtain ⟨queued, sent, goesWith⟩ := goesWith_of_course openedAtRest plain course
  refine ⟨queued, _, by rw [out, sent, waits], goesWith.told client remote cause told ours,
    Session.decode_farewellDatagram _, cause.agrees_iff⟩

/-- A text of so many letters. -/
def letters (count : Nat) : String := String.ofList (List.replicate count 'a')

theorem utf8ByteSize_letters (count : Nat) : (letters count).utf8ByteSize = count := by
  have letter : 'a'.utf8Size = 1 := rfl
  simp [letters, ← String.size_toByteArray, String.toByteArray_ofList, List.utf8Encode, letter]

/-- A farewell whose text fills its frame and leaves no room for the reason. -/
def overlong : Farewell := ⟨.kicked, some (letters 65536)⟩

theorem heard_overlong : overlong.heard = none := by
  have said : overlong.message = some (letters 65536) := rfl
  have long := Farewell.utf8ByteSize_lt_length_body said
  rw [utf8ByteSize_letters] at long
  exact if_neg (by omega)

/-- An identified client is sent that farewell. -/
theorem parting_told_iff_overlong :
    ∃ outcomes start outcome finish queued datagram,
      (create {}).run [.datagram (.v4 default 1) [8, 0, 1, 0, 0, 0, 0, 0, 0] 0] =
        .ok (outcomes, start) ∧
      start.apply (.disconnect ⟨1⟩ overlong) = .ok (outcome, finish) ∧
      .disconnected ⟨1⟩ (.v4 default 1) (.byServer overlong) ∈ outcome.report.events ∧
      finish.outgoing.toList = start.outgoing.toList ++ queued ∧
      LastWord queued (.v4 default 1) datagram ∧
      Packet.decode datagram = .ok (.disconnect none) ∧
      (DisconnectCause.byServer overlong).reason = .kicked := by
  have seen : ((create {}).run
      [.datagram (.v4 default 1) [8, 0, 1, 0, 0, 0, 0, 0, 0] 0]).toOption.any (fun result =>
        result.2.roster.addressOf? ⟨1⟩ = some (.v4 default 1) &&
        (result.2.roster.get? (.v4 default 1)).any fun session =>
          session.isIdentified && session.client = ⟨1⟩) = true := by
    decide +kernel
  obtain ⟨⟨outcomes, start⟩, ran, seen⟩ := Halt.exists_of_any seen
  simp only [Bool.and_eq_true, decide_eq_true_eq, Option.any_eq_true] at seen
  obtain ⟨known, session, stored, identified, named⟩ := seen
  have applied : start.apply (.disconnect ⟨1⟩ overlong) =
      .ok (.ofReport (start.close (.v4 default 1) overlong .byServer).1,
        (start.close (.v4 default 1) overlong .byServer).2) := by
    simp only [apply, disconnect, known]
    rfl
  have told : .disconnected ⟨1⟩ (.v4 default 1) (.byServer overlong) ∈
      (Outcome.ofReport (start.close (.v4 default 1) overlong .byServer).1).report.events := by
    have same := (session.samePeer_disconnect (some overlong)).client
    have stays : (session.disconnect (some overlong)).2.isIdentified = true := by
      rwa [Session.isIdentified_of_identity_eq (Ending.byServer overlong).identity_eq]
    rw [close_of_get? stored, Outcome.ofReport, events_farewellReport, if_pos stays, same, named]
    exact List.mem_singleton_self _
  have ours (farewell : Option Farewell) :
      DisconnectCause.byServer overlong ≠ .byPeer farewell := by
    intro same
    cases same
  obtain ⟨queued, datagram, out, last, read, -⟩ := parting_told_iff ran applied told ours
  have parting : (DisconnectCause.byServer overlong).parting = overlong := rfl
  rw [parting, heard_overlong] at read
  exact ⟨outcomes, start, _, _, queued, datagram, ran, applied, told, out, last, read, rfl⟩

end Endpoint

end SessionLayer
