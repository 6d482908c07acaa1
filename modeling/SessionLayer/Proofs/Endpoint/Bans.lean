import SessionLayer.Proofs.Endpoint.Clock
import SessionLayer.Proofs.Endpoint.Handling

/-!
# Bans and sessions

A host comes to be banned only by an operation that leaves none of its sessions
(`Endpoint.ban_of_apply`), and while it is banned its datagrams are turned away. As long
as the clock does not go back, no session therefore stands behind a ban that holds:
`Endpoint.no_session_behind_ban`.
-/

namespace SessionLayer

namespace Endpoint

variable {start finish : Endpoint} {operation : Operation} {outcome : Outcome} {host : Host}

/-! ## How a host comes to be banned -/

/-- With this operation the limiter finds that a peer has had warnings enough. -/
def Penalizes (endpoint : Endpoint) (remote : Address) (operation : Operation) : Prop :=
  ∃ ruling, endpoint.ruling? remote operation = some ruling ∧ ruling.decision = .penalize

/-- The operation bans a host, or brings a penalty on one of its peers. -/
def Condemns (endpoint : Endpoint) (host : Host) (operation : Operation) : Prop :=
  (∃ duration now, operation = .ban host duration now) ∨
    ∃ remote, remote.host = host ∧ endpoint.Penalizes remote operation

/-- No ban of a host is new. -/
theorem isBanned_of_bans
    (fewer : ∀ lapse, finish.penalties.bans.get? host = some lapse →
      start.penalties.bans.get? host = some lapse) (now : Instant)
    (banned : finish.isBanned host now = true) : start.isBanned host now = true := by
  obtain ⟨lapse, present, holds⟩ := PenaltyBook.isBanned_iff.mp banned
  exact PenaltyBook.isBanned_iff.mpr ⟨lapse, fewer lapse present, holds⟩

theorem isBanned_of_bans_eq (same : finish.penalties.bans = start.penalties.bans)
    (now : Instant) (banned : finish.isBanned host now = true) :
    start.isBanned host now = true :=
  isBanned_of_bans (fun _ present => by rwa [← same]) now banned

theorem Course.penalties_eq {allowed : Host → Deed → Prop} {report : Report}
    (course : Course allowed start report finish)
    (unjudged : ∀ host deed, allowed host deed → deed ≠ .judged ∧ deed ≠ .aside) :
    finish.penalties = start.penalties := by
  induction course with
  | stay => rfl
  | step one fits _ ih =>
    refine ih.trans ?_
    cases one with
    | judged _ => exact absurd rfl (unjudged _ _ fits).1
    | aside _ _ _ _ => exact absurd rfl (unjudged _ _ fits).2
    | _ => rfl

theorem penalties_of_apply (h : start.apply operation = .ok (outcome, finish))
    (unopened : start.opens operation = false)
    (unjudged : .judged ∉ operation.deeds ∧ .aside ∉ operation.deeds) :
    finish.penalties = start.penalties := by
  obtain ⟨opened, opening, course⟩ := course_of_apply h
  cases opening with
  | known _ =>
    refine course.penalties_eq fun _ deed may => ⟨?_, ?_⟩
    · rintro rfl
      exact unjudged.1 may.2
    · rintro rfl
      exact unjudged.2 may.2
  | fresh opens _ => rw [opens] at unopened; cases unopened

theorem Opening.penalties_eq {opened : Endpoint} (opening : start.Opening operation opened) :
    opened.penalties = start.penalties := by
  cases opening <;> rfl

/-- After a ban no session of the host is left, and no other ban is new. -/
theorem ban_of_closing {middle : Endpoint} {report : Report} {causes : DisconnectCause → Prop}
    (same : start.penalties.SameBut host middle.penalties)
    (closing : Closing causes (·.host = host) middle report finish) (other : Host) :
    (∀ now, finish.isBanned other now = true → start.isBanned other now = true) ∨
      other = host ∧ ∀ remote, remote.host = other → finish.roster.get? remote = none := by
  by_cases here : other = host
  · subst here
    exact .inr ⟨rfl, closing.out⟩
  · refine .inl (isBanned_of_bans fun lapse present => ?_)
    rwa [closing.penalties, same.bans other here] at present

theorem ban_of_handling {remote : Address} {bytes : Bytes} {now : Instant} {report : Report}
    (handling : start.Handling remote bytes now report finish) (host : Host) :
    (∀ now, finish.isBanned host now = true → start.isBanned host now = true) ∨
      start.Condemns host (.datagram remote bytes now) ∧
        ∀ remote, remote.host = host → finish.roster.get? remote = none := by
  cases handling with
  | turnedAway _ _ bans => exact .inl (isBanned_of_bans_eq bans)
  | @ruled opened _ _ next ruling _ decided opening _ _ _ ruled =>
    have before : (opened.put remote next).penalties = start.penalties := opening.penalties_eq
    generalize decision : ruling.decision = verdict at ruled
    cases ruled with
    | dropped _ => exact .inl (isBanned_of_bans_eq (congrArg PenaltyBook.bans before))
    | unreadable _ => exact .inl (isBanned_of_bans_eq (congrArg PenaltyBook.bans before))
    | taken _ _ => exact .inl (isBanned_of_bans_eq (congrArg PenaltyBook.bans before))
    | left _ _ => exact .inl (isBanned_of_bans_eq (congrArg PenaltyBook.bans before))
    | expelled recorded closing =>
      refine .inl (isBanned_of_bans_eq ?_)
      rw [closing.penalties, ← before]
      exact PenaltyBook.bans_of_disconnect recorded
    | banned recorded closing =>
      have same := PenaltyBook.sameBut_recordOffense recorded
      rw [before] at same
      rcases ban_of_closing same closing host with fewer | ⟨rfl, gone⟩
      · exact .inl fewer
      · exact .inr ⟨.inr ⟨remote, rfl, ruling, decided, decision⟩, gone⟩

/-- Whoever is banned after an operation was banned before, or the operation bans its host
and leaves none of its sessions. -/
theorem ban_of_apply (h : start.apply operation = .ok (outcome, finish)) (host : Host) :
    (∀ now, finish.isBanned host now = true → start.isBanned host now = true) ∨
      start.Condemns host operation ∧
        ∀ remote, remote.host = host → finish.roster.get? remote = none := by
  cases operation with
  | datagram remote bytes now => exact ban_of_handling (handling_of_apply h) host
  | ban banned duration now =>
    obtain ⟨book, recorded, closing⟩ := closing_of_ban h
    rcases ban_of_closing (PenaltyBook.sameBut_ban recorded) closing host with
      fewer | ⟨rfl, gone⟩
    · exact .inl fewer
    · exact .inr ⟨.inl ⟨duration, now, rfl⟩, gone⟩
  | unban lifted =>
    cases h
    refine .inl (isBanned_of_bans fun lapse present => ?_)
    have kept : (start.penalties.bans.erase lifted).get? host = some lapse := present
    rw [Table.get?_erase] at kept
    split at kept
    · cases kept
    · exact kept
  | sweep now =>
    simp only [apply, Halt.bind_eq_ok, Halt.pure_eq_ok] at h
    rcases h with ⟨⟨report, finish⟩, swept, h⟩
    cases h
    obtain ⟨middle, visited, rfl⟩ := sweep_eq_ok.mp swept
    have course : Course (fun _ deed => deed = .kept now ∨ deed = .ended) start report middle :=
      course_sweepAll (fun _ _ => ⟨.inl rfl, .inr rfl⟩) visited
    have same : middle.penalties = start.penalties :=
      course.penalties_eq fun _ _ may => by rcases may with rfl | rfl <;> simp
    refine .inl (isBanned_of_bans fun lapse present => ?_)
    have kept : (middle.penalties.bans.filter fun _ lapse => now < lapse).get? host =
      some lapse := present
    rw [Table.get?_filter, same] at kept
    exact (Option.filter_eq_some_iff.mp kept).1
  | ensureRoom name => cases h; exact .inl fun _ banned => banned
  | dropRoom name => cases h; exact .inl fun _ banned => banned
  | drain => cases h; exact .inl fun _ banned => banned
  | _ =>
    have same := penalties_of_apply h rfl (by simp [Operation.deeds])
    exact .inl (isBanned_of_bans_eq (congrArg PenaltyBook.bans same))

/-! ## No session behind a ban -/

/-- No session belongs to a host that is banned now. -/
def Guarded (endpoint : Endpoint) (now : Instant) : Prop :=
  ∀ remote session, endpoint.roster.get? remote = some session →
    endpoint.isBanned remote.host now = false

variable {clock now : Instant}

theorem guarded_create (settings : EndpointSettings) (now : Instant) :
    (Endpoint.create settings).Guarded now :=
  fun _ _ _ => rfl

/-- A ban that holds later holds now. -/
theorem isBanned_of_later {endpoint : Endpoint} (after : clock ≤ now)
    (banned : endpoint.isBanned host now = true) : endpoint.isBanned host clock = true := by
  obtain ⟨lapse, present, holds⟩ := PenaltyBook.isBanned_iff.mp banned
  exact PenaltyBook.isBanned_iff.mpr ⟨lapse, present, Nat.lt_of_le_of_lt after holds⟩

theorem Guarded.later {endpoint : Endpoint} (guarded : endpoint.Guarded clock)
    (after : clock ≤ now) : endpoint.Guarded now := by
  intro remote session stored
  rw [← Bool.not_eq_true]
  intro banned
  exact Bool.false_ne_true ((guarded remote session stored).symm.trans
    (isBanned_of_later after banned))

/-- Only a host that is not banned passes the gates. -/
theorem isBanned_of_admits {endpoint : Endpoint} {remote : Address} {bytes : Bytes}
    (passes : endpoint.admits remote bytes now = true) :
    endpoint.isBanned remote.host now = false := by
  simp only [admits, Bool.and_eq_true, Option.isNone_iff_eq_none] at passes
  rw [isBanned, PenaltyBook.isBanned, passes.1.2]
  rfl

theorem Guarded.of_apply (guarded : start.Guarded clock)
    (h : start.apply operation = .ok (outcome, finish))
    (after : clock ≤ operation.clockAfter clock) :
    finish.Guarded (operation.clockAfter clock) := by
  intro remote next stored
  rw [← Bool.not_eq_true]
  intro banned
  rcases ban_of_apply h remote.host with fewer | ⟨-, gone⟩
  · have before := fewer _ banned
    rcases limiter_of_apply h stored with ⟨-, session, there, -⟩ | ⟨ruling, decided, -⟩
    · rw [guarded.later after remote session there] at before
      cases before
    · obtain ⟨⟨bytes, rfl, passes, -⟩, -⟩ := ruling?_eq_some decided
      exact Bool.false_ne_true ((isBanned_of_admits passes).symm.trans before)
  · rw [gone remote rfl] at stored
    cases stored

theorem Guarded.of_run {operations : List Operation} {outcomes : List Outcome}
    (guarded : start.Guarded clock) (onward : Onward clock operations)
    (h : start.run operations = .ok (outcomes, finish)) (after : clock ≤ now)
    (past : ∀ time ∈ times operations, time ≤ now) : finish.Guarded now := by
  induction operations generalizing start clock outcomes with
  | nil =>
    cases h
    exact guarded.later after
  | cons operation rest ih =>
    obtain ⟨outcome, middle, others, first, next, -⟩ := run_cons_eq_ok.mp h
    obtain ⟨forward, onward⟩ := onward_cons.mp onward
    rw [times_cons] at past
    refine ih (guarded.of_apply first forward) onward next ?_
      fun time present => past time (List.mem_append_right _ present)
    cases timed : operation.time? with
    | none => rwa [Operation.clockAfter, timed]
    | some time =>
      rw [Operation.clockAfter, timed]
      exact past time (by simp [timed])

theorem handleDatagram_of_isBanned {endpoint : Endpoint} {remote : Address} (bytes : Bytes)
    (banned : endpoint.isBanned remote.host now = true) :
    ∃ finish, endpoint.handleDatagram remote bytes now = .ok (.empty, finish) ∧
      finish.roster = endpoint.roster := by
  have stopped : endpoint.admits remote bytes now = false := by
    rw [← Bool.not_eq_true]
    intro passes
    exact Bool.false_ne_true ((isBanned_of_admits passes).symm.trans banned)
  rcases handleDatagram_of_not_admits stopped with dropped | ⟨remaining, -, noticed⟩
  · exact ⟨endpoint, dropped, rfl⟩
  · exact ⟨_, noticed, (endpoint.frame_onBanned remote bytes remaining now).1⟩

/-- After every run in which the clock does not go back, no session belongs to a host that
is banned, and as long as a host is banned its datagrams raise no event and leave all
sessions as they are. -/
theorem no_session_behind_ban {settings : EndpointSettings} {operations : List Operation}
    {outcomes : List Outcome} {endpoint : Endpoint} (onward : Onward 0 operations)
    (returned : (Endpoint.create settings).run operations = .ok (outcomes, endpoint))
    (past : ∀ time ∈ times operations, time ≤ now) :
    (∀ remote session, endpoint.roster.get? remote = some session →
      endpoint.isBanned remote.host now = false) ∧
    ∀ remote, endpoint.isBanned remote.host now = true → ∀ bytes, ∃ finish,
      endpoint.handleDatagram remote bytes now = .ok (.empty, finish) ∧
        finish.roster = endpoint.roster :=
  ⟨(guarded_create settings 0).of_run onward returned (Nat.zero_le _) past,
    fun _ banned bytes => handleDatagram_of_isBanned bytes banned⟩

/-- Two hosts greet, one of them is banned for ten seconds, and greets again from another
port. -/
def briefBan : List Operation :=
  [.datagram (.v4 default 1) [8, 0, 1, 0, 0, 0, 0, 0, 0] 0,
    .datagram (.v6 default 0 1) [8, 0, 1, 0, 0, 0, 0, 0, 0] 0,
    .ban (.v4 default) (Span.ofSeconds 10) (Span.ofSeconds 1),
    .datagram (.v4 default 2) [8, 0, 1, 0, 0, 0, 0, 0, 0] (Span.ofSeconds 2)]

theorem no_session_behind_ban_briefBan :
    ∃ outcomes endpoint session, (Endpoint.create {}).run briefBan = .ok (outcomes, endpoint) ∧
      endpoint.roster.get? (.v6 default 0 1) = some session ∧
      endpoint.isBanned (.v6 default) (Span.ofSeconds 3) = false ∧
      endpoint.isBanned (.v4 default) (Span.ofSeconds 3) = true ∧
      ∀ bytes, ∃ finish,
        endpoint.handleDatagram (.v4 default 1) bytes (Span.ofSeconds 3) = .ok (.empty, finish) ∧
          finish.roster = endpoint.roster := by
  obtain ⟨⟨outcomes, endpoint⟩, returned⟩ :=
    Halt.exists_of_isSome ((Endpoint.create {}).run briefBan) (by decide +kernel)
  have known : ((Endpoint.create {}).run briefBan).toOption.any (fun ran =>
      (ran.2.roster.get? (.v6 default 0 1)).isSome &&
        ran.2.isBanned (.v4 default) (Span.ofSeconds 3)) = true := by
    decide +kernel
  rw [returned] at known
  obtain ⟨stays, banned⟩ := Bool.and_eq_true_iff.mp known
  obtain ⟨session, stored⟩ := Option.isSome_iff_exists.mp stays
  have onward : Onward 0 briefBan := by decide +kernel
  have past : ∀ time ∈ times briefBan, time ≤ Span.ofSeconds 3 := by decide +kernel
  obtain ⟨free, shut⟩ := no_session_behind_ban onward returned past
  exact ⟨outcomes, endpoint, session, returned, stored, free _ session stored, banned,
    shut (.v4 default 1) banned⟩

end Endpoint

end SessionLayer
