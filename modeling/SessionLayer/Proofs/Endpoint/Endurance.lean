import SessionLayer.Proofs.Endpoint.Halts
import SessionLayer.Proofs.Endpoint.Notices
import SessionLayer.Proofs.Endpoint.Rulings
import SessionLayer.Proofs.Session.InTurn

/-!
# What an endpoint endures

The counters of every session fit after every run, because what would make one overflow
does not end. Hence the reasons why the next datagram or the next sweep does not end are
known exactly, for all settings: `Endpoint.halts_iff`. There are settings with which a peer
can bring such a reason about (`Endpoint.lastingBans`).

With settings of a usual size none of them comes up for a long time: `Endpoint.endures`.
-/

namespace SessionLayer

/-- A turn of a session that is not looked after sends none of its packets again. -/
theorem Turn.follows {remote : Address} {deed : Deed} {session next : Session}
    {events : List Event} {sent : List Bytes} (turn : Turn remote deed session events sent next)
    (unkept : ∀ now, deed ≠ .kept now) :
    session.pending.Follows next.pending ∧ next.totalResends = session.totalResends := by
  cases turn with
  | checked checked =>
    rw [(Session.checkRate_eq_ok checked).2]
    exact ⟨.same, rfl⟩
  | received packet now _ => exact session.follows_handlePacket packet now
  | sent returned => exact (Session.sending returned).follows
  | refused returned => exact (Session.sending returned).follows
  | kept _ _ => exact absurd rfl (unkept _)
  | seated _ => exact ⟨.same, rfl⟩
  | unseated => exact ⟨.same, rfl⟩

/-- The counters of a session that is looked after fit when that is done. -/
theorem Session.Looking.countersFit {session next : Session} {now : Instant} {upkeep : Upkeep}
    (looking : session.Looking now upkeep next) (fit : session.countersFit = true) :
    next.countersFit = true := by
  cases looking with
  | keptUp _ _ _ room _ =>
    rw [expireGaps_frame]
    exact countersFit_of_follows room rfl (.recorded _ _ now) rfl
  | _ => exact fit

/-- The counters of a session fit as long as what is done to it comes to an end. -/
theorem Turn.countersFit {remote : Address} {deed : Deed} {session next : Session}
    {events : List Event} {sent : List Bytes} (turn : Turn remote deed session events sent next)
    (fit : session.countersFit = true) : next.countersFit = true := by
  by_cases checks : ∃ now, deed = .checked now
  · obtain ⟨now, rfl⟩ := checks
    cases turn with
    | checked checked => exact Session.countersFit_of_checkRate checked
  by_cases keeps : ∃ now, deed = .kept now
  · obtain ⟨now, rfl⟩ := keeps
    cases turn with
    | kept returned _ => exact (Session.looking returned).countersFit fit
  · obtain ⟨follows, total⟩ := turn.follows fun now same => keeps ⟨now, same⟩
    exact Session.countersFit_of_follows fit
      (turn.limiter_eq fun now same => checks ⟨now, same⟩) follows total

namespace Endpoint

variable {start middle finish endpoint : Endpoint} {operation : Operation} {outcome : Outcome}
  {outcomes : List Outcome} {operations : List Operation} {remote : Address}
  {session next : Session} {settings : EndpointSettings} {now : Instant}

/-- After a run all counters of all sessions fit. -/
theorem countersFit_of_run (ran : (create settings).run operations = .ok (outcomes, endpoint)) :
    ∀ remote session, endpoint.roster.get? remote = some session →
      session.countersFit = true :=
  stored_of_run Session.countersFit_create Turn.countersFit ran fun _ _ stored => by cases stored

/-- From every state that a run leads to, whatever the settings: a datagram is handled
unless there is no memory for a new session, the datagram cannot be counted, or it brings a
ban that would not end before the clock does. A sweep ends, in whatever order it visits the
sessions, unless one of them cannot be looked after. -/
theorem halts_iff (ran : (create settings).run operations = .ok (outcomes, endpoint))
    (now : Instant) :
    (endpoint.roster.settings = settings.validated.session ∧
      endpoint.penalties.policy = settings.penalty) ∧
    (∀ remote bytes halt, endpoint.handleDatagram remote bytes now = .error halt ↔
      endpoint.DatagramHalts remote bytes now halt) ∧
    ∀ order, order.Perm endpoint.roster.addresses →
      ∀ halt, endpoint.sweepInOrder order now = .error halt ↔
        endpoint.SweepHalts now order halt := by
  have fit := countersFit_of_run ran
  refine ⟨⟨settings_of_run ran, policy_of_run ran⟩,
    fun remote bytes halt => handleDatagram_eq_error_iff (fit remote),
    fun order same halt => sweepInOrder_eq_error_iff ?_ fit⟩
  exact same.nodup_iff.mpr endpoint.roster.sessions.nodup_keys

/-- Whoever floods is banned at once, for longer than the clock runs. -/
def lastingBans : EndpointSettings where
  flood := { reliable := ⟨1000, 1⟩, maxWarnings := 1 }
  penalty := { action := .ban, banDurationSecs := UInt64.size - 1 }

/-- A client that greets such an endpoint twice makes it halt. -/
theorem halts_iff_lastingBans :
    ∃ outcomes endpoint,
      (create lastingBans).run [knock 1 0] = .ok (outcomes, endpoint) ∧
      endpoint.handleDatagram (.v4 default 1) [8, 0, 1, 0, 0, 0, 0, 0, 0] 0 =
        .error .clockOverflow := by
  have seen : ((create lastingBans).run [knock 1 0]).toOption.any (fun ran =>
      !ran.2.opens (knock 1 0) && (ran.2.ruling? (.v4 default 1) (knock 1 0)).any
        (·.decision = .penalize) &&
      ((ran.2.limiterAt (.v4 default 1)).window .reliable).count = 1 &&
      ran.2.penalties.policy.action = .ban &&
      Instant.bound ≤ 0 + ran.2.penalties.policy.banDuration) = true := by
    decide +kernel
  obtain ⟨⟨outcomes, endpoint⟩, ran, seen⟩ := Halt.exists_of_any seen
  simp only [Bool.and_eq_true, Bool.not_eq_true', decide_eq_true_eq, Option.any_eq_true] at seen
  obtain ⟨⟨⟨⟨known, ruling, decided, penal⟩, counted⟩, bans⟩, late⟩ := seen
  have few : ¬ endpoint.Overcounts (.v4 default 1) [8, 0, 1, 0, 0, 0, 0, 0, 0] 0 := by
    rw [overcounts_iff rfl]
    rintro ⟨-, full⟩
    exact absurd (counted ▸ full) (by decide)
  exact ⟨outcomes, endpoint, ran, ((halts_iff ran 0).2.1 _ _ _).mpr
    (.ban ⟨ruling, decided, penal⟩ (fun opens => nomatch opens.symm.trans known) few (.inl bans)
      late)⟩

end Endpoint

/-! ## Settings of a usual size -/

section Tended

variable {remote : Address} {session next : Session} {places spent : Nat} {now : Instant}

theorem Session.Tended.later (tended : session.Tended places spent) {more : Nat}
    (after : spent ≤ more) : session.Tended places more :=
  { tended with total := Nat.le_trans tended.total after }

/-- What is done to a session without looking after it sends nothing again. -/
theorem Turn.tended {deed : Deed} {events : List Event} {sent : List Bytes}
    (turn : Turn remote deed session events sent next) (unkept : ∀ now, deed ≠ .kept now)
    (fit : session.countersFit = true) (tended : session.Tended places spent) :
    next.Tended places spent := by
  obtain ⟨follows, total⟩ := turn.follows unkept
  have windows := (Session.countersFit_iff.mp (turn.countersFit fit)).1
  have sized := follows.capacity_eq.trans tended.sized
  exact
    { sized := sized
      few := sized ▸ follows.length_le (tended.sized ▸ tended.few)
      aged := follows.aged tended.aged
      reliable := windows .reliable
      unreliable := windows .unreliable
      total := total ▸ tended.total }

/-- A look after a session sends at most the packets again that have a place. -/
theorem Session.Looking.tended {upkeep : Upkeep} (looking : session.Looking now upkeep next)
    (small : places ≤ 65535) (tended : session.Tended places spent) :
    next.Tended places (spent + places) := by
  cases looking with
  | @keptUp sequence _ _ _ _ _ =>
    rw [expireGaps_frame]
    exact { tended.ping small sequence (PacketKind.ping.tag :: Wire.u16be sequence) now with }
  | _ => exact tended.later (Nat.le_add_right ..)

/-- With few enough places only the total of packets that were sent again can be too large. -/
theorem Session.Tended.not_upkeepHalts {halt : Halt} (tended : session.Tended places spent)
    (small : places ≤ 65535) (fit : session.countersFit = true)
    (room : spent + places < UInt64.size) : ¬ session.UpkeepHalts now halt := by
  intro halts
  cases halts with
  | counters _ many =>
    obtain ⟨total, counted⟩ := tended.resendOverdue small now
    rw [decide_eq_true (Nat.lt_of_le_of_lt total room)] at counted
    exact many ((countersFit_resendOverdue fit).mp counted)
  | numbers _ _ taken =>
    obtain ⟨sequence, free⟩ := tended.exists_free small now
    have everywhere (number : Sequence) :
        (session.resendOverdue now).2.pending.isOutstanding number = true :=
      (PendingList.isOutstanding_resendOverdue ..).trans (taken number)
    rw [PendingList.freeAfter_eq_error_iff.mpr ⟨rfl, everywhere⟩] at free
    cases free

end Tended

namespace Endpoint

variable {start middle finish endpoint : Endpoint} {operation : Operation} {outcome : Outcome}
  {outcomes : List Outcome} {operations : List Operation} {remote : Address}
  {session next : Session} {settings : EndpointSettings} {now : Instant} {places spent : Nat}

/-- Only in a sweep sessions are looked after. -/
theorem ne_kept_of_deeds (unswept : ∀ time, operation ≠ .sweep time) {deed : Deed}
    (among : deed ∈ operation.deeds) : ∀ now, deed ≠ .kept now := by
  rintro now rfl
  cases operation with
  | sweep time => exact unswept time rfl
  | _ => simp [Operation.deeds] at among

/-- In one operation every session sends at most the packets again that have a place. -/
theorem tended_of_apply (sized : start.roster.settings.pendingCapacity = places)
    (small : places ≤ 65535) (h : start.apply operation = .ok (outcome, finish))
    (each : ∀ remote session, start.roster.get? remote = some session →
      session.countersFit = true ∧ session.Tended places spent) :
    ∀ remote session, finish.roster.get? remote = some session →
      session.countersFit = true ∧ session.Tended places (spent + places) := by
  by_cases swept : ∃ time, operation = .sweep time
  · obtain ⟨time, rfl⟩ := swept
    simp only [apply, Halt.bind_eq_ok, Halt.pure_eq_ok] at h
    obtain ⟨⟨report, finish⟩, swept, h⟩ := h
    cases h
    intro remote next stays
    obtain ⟨session, upkeep, kept, stored, returned, -, rfl⟩ := kept_of_sweep swept stays
    obtain ⟨fit, tended⟩ := each remote session stored
    have looking := Session.looking returned
    exact ⟨looking.countersFit fit, { looking.tended small tended with }⟩
  · have unkept {deed : Deed} (among : deed ∈ operation.deeds) : ∀ now, deed ≠ .kept now :=
      ne_kept_of_deeds (fun time same => swept ⟨time, same⟩) among
    have after := stored_of_apply
      (fun _ made => ⟨Session.countersFit_create made,
        sized ▸ (Session.tended_create made).later (Nat.zero_le spent)⟩)
      (fun among turn before =>
        ⟨turn.countersFit before.1, turn.tended (unkept among) before.1 before.2⟩) h each
    exact fun remote session stored =>
      (after remote session stored).imp_right (·.later (Nat.le_add_right ..))

theorem tended_of_run (sized : start.roster.settings.pendingCapacity = places)
    (small : places ≤ 65535) (ran : start.run operations = .ok (outcomes, finish))
    (each : ∀ remote session, start.roster.get? remote = some session →
      session.countersFit = true ∧ session.Tended places spent) :
    ∀ remote session, finish.roster.get? remote = some session →
      session.countersFit = true ∧ session.Tended places (spent + operations.length * places) := by
  induction operations generalizing start outcomes spent with
  | nil =>
    cases ran
    rw [List.length_nil, Nat.zero_mul, Nat.add_zero]
    exact each
  | cons operation rest ih =>
    obtain ⟨outcome, middle, others, first, next, -⟩ := run_cons_eq_ok.mp ran
    have sums : spent + (operation :: rest).length * places =
        spent + places + rest.length * places := by
      rw [List.length_cons, Nat.succ_mul, Nat.add_comm (rest.length * places), Nat.add_assoc]
    rw [sums]
    exact ih (by rw [settings_of_apply first, sized]) next (tended_of_apply sized small first each)

/-- In one operation a window counts at most one datagram more. -/
theorem count_of_apply {count : Nat} (h : start.apply operation = .ok (outcome, finish))
    (each : ∀ remote trafficClass,
      ((start.limiterAt remote).window trafficClass).count ≤ count)
    (remote : Address) (trafficClass : TrafficClass) :
    ((finish.limiterAt remote).window trafficClass).count ≤ count + 1 := by
  cases stored : finish.roster.get? remote with
  | none =>
    rw [limiterAt_of_none stored]
    cases trafficClass <;> exact Nat.zero_le _
  | some next =>
    rw [limiterAt_of_get? stored]
    rcases limiter_of_apply h stored with ⟨-, session, before, same⟩ | ⟨ruling, -, checked⟩
    · rw [same, ← limiterAt_of_get? before]
      exact Nat.le_succ_of_le (each remote trafficClass)
    · rw [checked, RateLimiter.window_check]
      split
      · exact Nat.le_trans (CountingWindow.count_hit_le _ _)
          (Nat.succ_le_succ (each remote trafficClass))
      · exact Nat.le_succ_of_le (each remote trafficClass)

theorem count_of_run {count : Nat} (ran : start.run operations = .ok (outcomes, finish))
    (each : ∀ remote trafficClass,
      ((start.limiterAt remote).window trafficClass).count ≤ count) :
    ∀ remote trafficClass,
      ((finish.limiterAt remote).window trafficClass).count ≤ count + operations.length := by
  induction operations generalizing start outcomes count with
  | nil =>
    cases ran
    exact each
  | cons operation rest ih =>
    obtain ⟨outcome, middle, others, first, next, -⟩ := run_cons_eq_ok.mp ran
    rw [List.length_cons, Nat.add_comm rest.length, ← Nat.add_assoc]
    exact ih next (count_of_apply first each)

/-- With no more places for pending packets and received numbers than there are numbers,
every datagram is handled and every sweep ends, as long as there were fewer than four
billion operations and a ban from now on ends before the clock does. -/
theorem endures (small : settings.session.pendingCapacity ≤ 65535)
    (short : settings.session.receivedHistory ≤ 65535)
    (ran : (create settings).run operations = .ok (outcomes, endpoint))
    (few : operations.length + 1 < UInt32.size)
    (soon : now + settings.penalty.banDuration < Instant.bound) :
    (∀ remote bytes, ∃ result, endpoint.handleDatagram remote bytes now = .ok result) ∧
      ∃ result, endpoint.sweep now = .ok result := by
  have settled : endpoint.roster.settings = settings.validated.session := settings_of_run ran
  have policy : endpoint.penalties.policy = settings.penalty := policy_of_run ran
  have places : settings.validated.session.pendingCapacity ≤ 65535 :=
    Nat.max_le.mpr ⟨small, by decide⟩
  have numbers : settings.validated.session.receivedHistory ≤ 65535 :=
    Nat.max_le.mpr ⟨short, by decide⟩
  have tended : ∀ remote session, endpoint.roster.get? remote = some session →
      session.countersFit = true ∧ session.Tended settings.validated.session.pendingCapacity
        (0 + operations.length * settings.validated.session.pendingCapacity) :=
    tended_of_run rfl places ran fun _ _ stored => by cases stored
  have counted : ∀ remote trafficClass,
      ((endpoint.limiterAt remote).window trafficClass).count ≤ 0 + operations.length :=
    count_of_run ran fun _ trafficClass => by cases trafficClass <;> exact Nat.le_refl _
  constructor
  · intro remote bytes
    rw [Halt.exists_eq_ok_iff]
    intro halt stops
    have fit := fun session stored => (tended remote session stored).1
    cases (handleDatagram_eq_error_iff fit).mp stops with
    | memory _ crowded =>
      exact crowded (settled ▸ Session.fitMemory_of_le places numbers)
    | window _ many =>
      obtain ⟨kind, -, -, full⟩ := many
      have before := counted remote kind.trafficClass
      omega
    | ban _ _ _ _ late =>
      rw [policy] at late
      exact absurd soon (Nat.not_lt_of_le late)
  · rw [Halt.exists_eq_ok_iff]
    intro halt stops
    have fit := fun remote session stored => (tended remote session stored).1
    have distinct := endpoint.roster.sessions.nodup_keys
    obtain ⟨remote, session, stored, halts⟩ :=
      ((sweepInOrder_eq_error_iff distinct fit).mp stops).exists_stored
    have room : 0 + operations.length * settings.validated.session.pendingCapacity +
        settings.validated.session.pendingCapacity < UInt64.size := by
      rw [Nat.zero_add, ← Nat.succ_mul]
      exact Nat.lt_of_le_of_lt (Nat.mul_le_mul (Nat.le_of_lt few) places) (by decide)
    exact (tended remote session stored).2.not_upkeepHalts places (fit remote session stored) room
      halts

end Endpoint

end SessionLayer
