import SessionLayer.Proofs.Endpoint.Bans
import SessionLayer.Proofs.Endpoint.Silence
import SessionLayer.Proofs.Session.Counters

/-!
# Why an operation does not end

Peers may send what they like and when they like. Their datagrams are handled, and sweeps
end, unless something gets larger than it can be counted. `Endpoint.DatagramHalts` lists
what this can be for a datagram, and `Endpoint.SweepHalts` for a sweep, which goes by
`Session.UpkeepHalts`. As long as the counters of all sessions fit, there is no other
reason (`Endpoint.handleDatagram_eq_error_iff`, `Endpoint.sweepInOrder_eq_error_iff`).
-/

namespace SessionLayer

namespace Endpoint

variable {start finish endpoint : Endpoint} {remote : Address} {bytes : Bytes}
  {session : Session} {now : Instant} {halt : Halt}

/-! ## Datagrams -/

theorem penalize_eq_error_iff :
    endpoint.penalize remote now = .error halt ↔
      endpoint.penalties.recordOffense remote.host now = .error halt := by
  unfold penalize
  cases endpoint.penalties.recordOffense remote.host now with
  | error reason => simp [bind, Except.bind]
  | ok result =>
    obtain ⟨verdict, book⟩ := result
    cases verdict <;> simp [bind, Except.bind, pure, Except.pure]

/-- A datagram of a peer that has a session. -/
theorem handleKnown_eq_error_iff {kind : PacketKind}
    (stored : endpoint.roster.get? remote = some session) (fit : session.countersFit = true) :
    endpoint.handleKnown remote kind bytes now = .error halt ↔
      (halt = .counterOverflow ∧ (session.limiter.window kind.trafficClass).IsFull now) ∨
        (¬ (session.limiter.window kind.trafficClass).IsFull now ∧
          (session.limiter.check kind.trafficClass now).1 = .penalize ∧
          endpoint.penalties.recordOffense remote.host now = .error halt) := by
  cases checked : session.checkRate kind.trafficClass now with
  | error reason =>
    obtain ⟨rfl, full⟩ := (Session.checkRate_eq_error_iff fit).mp checked
    have fails : endpoint.handleKnown remote kind bytes now = .error .counterOverflow := by
      simp [handleKnown, Roster.lookupOrCreate, stored, checked, bind, Except.bind]
    rw [fails, Except.error.injEq, eq_comm]
    simp only [full, not_true_eq_false, and_true, false_and, or_false]
  | ok result =>
    obtain ⟨decision, next⟩ := result
    have room : ¬ (session.limiter.window kind.trafficClass).IsFull now := by
      intro full
      rw [(Session.checkRate_eq_error_iff fit).mpr ⟨rfl, full⟩] at checked
      cases checked
    simp only [room, and_false, not_false_eq_true, true_and, false_or,
      ← (Session.checkRate_eq_ok checked).1]
    cases decision with
    | drop warnings =>
      simp [handleKnown, Roster.lookupOrCreate, stored, checked, bind, Except.bind, pure,
        Except.pure]
    | penalize =>
      have brought : endpoint.handleKnown remote kind bytes now =
          (endpoint.put remote next).penalize remote now := by
        simp [handleKnown, Roster.lookupOrCreate, stored, checked, bind, Except.bind]
      rw [brought, penalize_eq_error_iff]
      exact (and_iff_right rfl).symm
    | accept =>
      simp only [handleKnown, Roster.lookupOrCreate, stored, checked, bind, Except.bind, pure,
        Except.pure, reduceCtorEq, false_and, iff_false]
      split <;> simp

/-- The window of its class is full when the datagram comes. -/
def Overcounts (endpoint : Endpoint) (remote : Address) (bytes : Bytes) (now : Instant) : Prop :=
  ∃ kind, PacketKind.peek bytes = .ok kind ∧
    ((endpoint.limiterAt remote).window kind.trafficClass).IsFull now

/-- Why a datagram cannot be handled. -/
inductive DatagramHalts (endpoint : Endpoint) (remote : Address) (bytes : Bytes) (now : Instant) :
    Halt → Prop
  /-- There is no memory for a new session. -/
  | memory :
    endpoint.opens (.datagram remote bytes now) = true → ¬ endpoint.roster.settings.FitMemory →
    DatagramHalts endpoint remote bytes now .capacityOverflow
  /-- There were so many datagrams that this one cannot be counted. -/
  | window :
    endpoint.admits remote bytes now = true → endpoint.Overcounts remote bytes now →
    DatagramHalts endpoint remote bytes now .counterOverflow
  /-- The datagram brings a ban that would not end before the clock does. -/
  | ban :
    endpoint.Penalizes remote (.datagram remote bytes now) →
    (endpoint.opens (.datagram remote bytes now) = true → endpoint.roster.settings.FitMemory) →
    ¬ endpoint.Overcounts remote bytes now → endpoint.penalties.BringsBan remote.host now →
    Instant.bound ≤ now + endpoint.penalties.policy.banDuration →
    DatagramHalts endpoint remote bytes now .clockOverflow

theorem DatagramHalts.admits (halts : endpoint.DatagramHalts remote bytes now halt) :
    endpoint.admits remote bytes now = true := by
  cases halts with
  | memory opens _ => exact (Bool.and_eq_true_iff.mp opens).2
  | window passes _ => exact passes
  | ban penalizes _ _ _ _ =>
    obtain ⟨ruling, decided, -⟩ := penalizes
    obtain ⟨⟨_, same, passes, -⟩, -⟩ := ruling?_eq_some decided
    cases same
    exact passes

theorem overcounts_iff {kind : PacketKind} (peeked : PacketKind.peek bytes = .ok kind) :
    endpoint.Overcounts remote bytes now ↔
      ((endpoint.limiterAt remote).window kind.trafficClass).IsFull now := by
  simp [Overcounts, peeked]

theorem penalizes_iff {kind : PacketKind} (passes : endpoint.admits remote bytes now = true)
    (peeked : PacketKind.peek bytes = .ok kind) :
    endpoint.Penalizes remote (.datagram remote bytes now) ↔
      ((endpoint.limiterAt remote).check kind.trafficClass now).1 = .penalize := by
  simp [Penalizes, ruling?_of_admits passes peeked]

theorem opens_of_admits (passes : endpoint.admits remote bytes now = true) :
    endpoint.opens (.datagram remote bytes now) = (endpoint.roster.get? remote).isNone := by
  simp [opens, passes]

theorem datagramHalts_of_known (passes : endpoint.admits remote bytes now = true)
    (stored : endpoint.roster.get? remote = some session) (fit : session.countersFit = true) :
    endpoint.handleDatagram remote bytes now = .error halt ↔
      endpoint.DatagramHalts remote bytes now halt := by
  obtain ⟨kind, peeked, same⟩ := handleDatagram_of_admits passes
  have known : ¬ endpoint.opens (.datagram remote bytes now) = true := by
    simp [opens_of_admits passes, stored]
  have full : endpoint.Overcounts remote bytes now ↔ _ := overcounts_iff peeked
  have penal := penalizes_iff passes peeked
  rw [limiterAt_of_get? stored] at full penal
  rw [same, handleKnown_eq_error_iff stored fit, PenaltyBook.recordOffense_eq_error_iff, ← full,
    ← penal]
  constructor
  · rintro (⟨rfl, many⟩ | ⟨few, penalizes, rfl, brings, late⟩)
    · exact .window passes many
    · exact .ban penalizes (fun opens => absurd opens known) few brings late
  · intro halts
    cases halts with
    | memory opens _ => exact absurd opens known
    | window _ many => exact .inl ⟨rfl, many⟩
    | ban penalizes _ few brings late => exact .inr ⟨few, penalizes, rfl, brings, late⟩

theorem datagramHalts_of_unknown (passes : endpoint.admits remote bytes now = true)
    (absent : endpoint.roster.get? remote = none) :
    endpoint.handleDatagram remote bytes now = .error halt ↔
      endpoint.DatagramHalts remote bytes now halt := by
  obtain ⟨kind, peeked, same⟩ := handleDatagram_of_admits passes
  have opens : endpoint.opens (.datagram remote bytes now) = true := by
    simp [opens_of_admits passes, absent]
  have few : ¬ endpoint.Overcounts remote bytes now := by
    rw [overcounts_iff peeked, limiterAt_of_none absent]
    cases kind.trafficClass <;> exact CountingWindow.not_isFull_fresh _ now
  have enrolled {session : Session}
      (made : Session.create endpoint.roster.nextClient remote endpoint.roster.settings
        endpoint.roster.flood now = .ok session) :
      (endpoint.enrol remote session).handleKnown remote kind bytes now = .error halt ↔
        endpoint.Penalizes remote (.datagram remote bytes now) ∧ halt = .clockOverflow ∧
          endpoint.penalties.BringsBan remote.host now ∧
          Instant.bound ≤ now + endpoint.penalties.policy.banDuration := by
    have stored : (endpoint.enrol remote session).roster.get? remote = some session :=
      Table.get?_insert_self _ _ _
    have limiter : session.limiter = endpoint.limiterAt remote := by
      rw [limiterAt_of_none absent, Session.create_eq_ok made]
    rw [handleKnown_eq_error_iff stored (Session.countersFit_create made), limiter,
      ← overcounts_iff peeked, ← penalizes_iff passes peeked]
    simp only [few, and_false, not_false_eq_true, true_and, false_or]
    exact and_congr_right' PenaltyBook.recordOffense_eq_error_iff
  rw [same, handleKnown_of_none absent, Halt.bind_eq_error, Session.create_eq_error_iff]
  constructor
  · rintro (⟨rfl, crowded⟩ | ⟨session, made, fails⟩)
    · exact .memory opens crowded
    · obtain ⟨penalizes, rfl, brings, late⟩ := (enrolled made).mp fails
      refine .ban penalizes (fun _ => Classical.byContradiction fun crowded => ?_) few brings late
      rw [Session.create_eq_error_iff.mpr ⟨rfl, crowded⟩] at made
      cases made
  · intro halts
    cases halts with
    | memory _ crowded => exact .inl ⟨rfl, crowded⟩
    | window _ many => exact absurd many few
    | ban penalizes roomy _ brings late =>
      cases made : Session.create endpoint.roster.nextClient remote endpoint.roster.settings
          endpoint.roster.flood now with
      | error reason => exact absurd (roomy opens) (Session.create_eq_error_iff.mp made).2
      | ok session =>
        exact .inr ⟨session, rfl, (enrolled made).mpr ⟨penalizes, rfl, brings, late⟩⟩

/-- A datagram is handled unless there is no memory for a new session, the datagram cannot
be counted, or it brings a ban that does not end before the clock does. -/
theorem handleDatagram_eq_error_iff
    (fit : ∀ session, endpoint.roster.get? remote = some session → session.countersFit = true) :
    endpoint.handleDatagram remote bytes now = .error halt ↔
      endpoint.DatagramHalts remote bytes now halt := by
  cases passes : endpoint.admits remote bytes now with
  | false =>
    have unharmed : ¬ endpoint.DatagramHalts remote bytes now halt := by
      intro halts
      rw [halts.admits] at passes
      cases passes
    rcases handleDatagram_of_not_admits passes with dropped | ⟨remaining, -, banned⟩
    · simp [dropped, unharmed]
    · simp [banned, unharmed]
  | true =>
    cases found : endpoint.roster.get? remote with
    | none => exact datagramHalts_of_unknown passes found
    | some session => exact datagramHalts_of_known passes found (fit session found)

/-! ## Sweeps -/

theorem sweepAt_eq_error_iff :
    endpoint.sweepAt remote now = .error halt ↔
      ∃ session, endpoint.roster.get? remote = some session ∧
        session.maintain now = .error halt := by
  unfold sweepAt
  cases endpoint.roster.get? remote with
  | none => simp
  | some session =>
    cases looked : session.maintain now with
    | error reason => simp [looked, bind, Except.bind]
    | ok result =>
      simp only [bind, Except.bind, Option.some.injEq, exists_eq_left', looked, reduceCtorEq,
        iff_false]
      split <;> simp [pure, Except.pure]

/-- Why a sweep does not end that visits sessions in this order: the first of them that
cannot be looked after. -/
inductive SweepHalts (endpoint : Endpoint) (now : Instant) : List Address → Halt → Prop
  | here {remote : Address} {rest : List Address} {session : Session} {halt : Halt} :
    endpoint.roster.get? remote = some session → session.UpkeepHalts now halt →
    SweepHalts endpoint now (remote :: rest) halt
  | later {remote : Address} {rest : List Address} {halt : Halt} :
    (∀ session, endpoint.roster.get? remote = some session →
      ∀ reason, ¬ session.UpkeepHalts now reason) →
    SweepHalts endpoint now rest halt → SweepHalts endpoint now (remote :: rest) halt

theorem SweepHalts.exists_stored {order : List Address}
    (halts : endpoint.SweepHalts now order halt) :
    ∃ remote session, endpoint.roster.get? remote = some session ∧
      session.UpkeepHalts now halt := by
  induction halts with
  | here stored halts => exact ⟨_, _, stored, halts⟩
  | later _ _ ih => exact ih

/-- Only the sessions that are visited matter. -/
theorem SweepHalts.congr {order : List Address} (halts : start.SweepHalts now order halt)
    (same : ∀ remote ∈ order, finish.roster.get? remote = start.roster.get? remote) :
    finish.SweepHalts now order halt := by
  induction halts with
  | here stored halts => exact .here ((same _ (List.mem_cons_self ..)).trans stored) halts
  | later passed _ ih =>
    refine .later (fun session stored => passed session ?_)
      (ih fun remote present => same remote (List.mem_cons_of_mem _ present))
    exact (same _ (List.mem_cons_self ..)).symm.trans stored

theorem sweepAll_eq_error_iff {order : List Address} (distinct : order.Nodup)
    (fit : ∀ remote ∈ order, ∀ session, endpoint.roster.get? remote = some session →
      session.countersFit = true) :
    sweepAll now order endpoint = .error halt ↔ endpoint.SweepHalts now order halt := by
  induction order generalizing endpoint with
  | nil => exact ⟨fun ended => (by cases ended), fun halts => (by cases halts)⟩
  | cons other rest ih =>
    obtain ⟨alone, distinct⟩ := List.nodup_cons.mp distinct
    have fails {session : Session} (stored : endpoint.roster.get? other = some session)
        (reason : Halt) :
        session.maintain now = .error reason ↔ session.UpkeepHalts now reason :=
      Session.maintain_eq_error_iff (fit other (List.mem_cons_self ..) session stored)
    -- The addresses differ, so the first visit leaves the other sessions as they are.
    have same {report : Report} {middle : Endpoint}
        (visited : endpoint.sweepAt other now = .ok (report, middle)) :
        ∀ remote ∈ rest, middle.roster.get? remote = endpoint.roster.get? remote :=
      fun remote present => get?_of_swept (swept_of_sweepAt visited)
        (fun here => alone (here ▸ present))
    have onward {report : Report} {middle : Endpoint}
        (visited : endpoint.sweepAt other now = .ok (report, middle)) :
        sweepAll now rest middle = .error halt ↔ middle.SweepHalts now rest halt :=
      ih distinct fun remote present session stored => fit remote (List.mem_cons_of_mem _ present)
        session (same visited remote present ▸ stored)
    rw [sweepAll, Halt.bind_eq_error]
    constructor
    · rintro (stops | ⟨⟨report, middle⟩, visited, later⟩)
      · obtain ⟨session, stored, stops⟩ := sweepAt_eq_error_iff.mp stops
        exact .here stored ((fails stored halt).mp stops)
      · rcases Halt.bind_eq_error.mp later with stops | ⟨_, _, returned⟩
        · refine .later (fun session stored reason halts => ?_) (((onward visited).mp stops).congr
            fun remote present => (same visited remote present).symm)
          have stops := sweepAt_eq_error_iff.mpr ⟨session, stored, (fails stored reason).mpr halts⟩
          rw [visited] at stops
          cases stops
        · cases returned
    · intro halts
      cases halts with
      | here stored halts =>
        exact .inl (sweepAt_eq_error_iff.mpr ⟨_, stored, (fails stored halt).mpr halts⟩)
      | later passed halts =>
        cases visited : endpoint.sweepAt other now with
        | error reason =>
          obtain ⟨session, stored, stops⟩ := sweepAt_eq_error_iff.mp visited
          exact absurd ((fails stored reason).mp stops) (passed session stored reason)
        | ok result =>
          obtain ⟨report, middle⟩ := result
          exact .inr ⟨_, rfl, Halt.bind_eq_error.mpr (.inl ((onward visited).mpr
            (halts.congr (same visited))))⟩

theorem sweepInOrder_eq_error_iff {order : List Address} (distinct : order.Nodup)
    (fit : ∀ remote session, endpoint.roster.get? remote = some session →
      session.countersFit = true) :
    endpoint.sweepInOrder order now = .error halt ↔ endpoint.SweepHalts now order halt := by
  rw [sweepInOrder, Halt.bind_eq_error, ← sweepAll_eq_error_iff distinct fun remote _ => fit remote]
  refine or_iff_left ?_
  rintro ⟨_, _, returned⟩
  cases returned

end Endpoint

end SessionLayer
