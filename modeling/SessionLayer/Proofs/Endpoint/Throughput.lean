import SessionLayer.Proofs.Endpoint.Rulings

/-!
# How much one address gets through

Every session has a limiter of its own, and a peer that comes back gets a new one. What
one address gets through within the length of a window is therefore bounded by the number
of its sessions: a session that is there when the span begins lets through up to twice the
limit, as its window may end and begin again in between, and every session that is made
within the span up to once the limit (`Endpoint.passed_le`).
-/

namespace SessionLayer

/-- Whether the datagram came within one window's length from `since` on. -/
def Ruling.isWithin (ruling : Ruling) (since : Instant) (limit : WindowLimit) : Bool :=
  since ≤ ruling.now && ruling.now ≤ since + limit.window

/-- Whether the datagram is of this class and was let through. -/
def Ruling.passes (ruling : Ruling) (trafficClass : TrafficClass) : Bool :=
  ruling.kind.trafficClass = trafficClass && ruling.decision = .accept

namespace Endpoint

variable {endpoint start middle finish : Endpoint}
  {remote : Address} {operation : Operation} {operations : List Operation} {outcome : Outcome}
  {ruling : Ruling} {trafficClass : TrafficClass} {since clock : Instant}

/-- Whether a peer has a session when a run comes to this time. -/
def residesAt (endpoint : Endpoint) (remote : Address) (since : Instant) :
    List Operation → Bool
  | [] => (endpoint.roster.get? remote).isSome
  | operation :: rest =>
    if operation.time?.any (since ≤ ·) then (endpoint.roster.get? remote).isSome
    else
      match endpoint.apply operation with
      | .ok (_, next) => next.residesAt remote since rest
      | .error _ => false

/-- How many datagrams of a class a peer got through within one window's length. -/
def passed (endpoint : Endpoint) (remote : Address) (trafficClass : TrafficClass)
    (since : Instant) (limit : WindowLimit) (operations : List Operation) : Nat :=
  (endpoint.rulings remote operations).countP fun ruling =>
    ruling.isWithin since limit && ruling.passes trafficClass

/-- How many sessions a peer got within one window's length. -/
def renewed (endpoint : Endpoint) (remote : Address) (since : Instant) (limit : WindowLimit)
    (operations : List Operation) : Nat :=
  (endpoint.rulings remote operations).countP fun ruling =>
    ruling.isWithin since limit && ruling.opened

/-! ## Limiters keep their limits -/

/-- All limiters have these limits, and so have those that come. -/
structure Limited (settings : FloodSettings) (endpoint : Endpoint) : Prop where
  flood : ∀ trafficClass, endpoint.roster.flood.limit trafficClass = settings.limit trafficClass
  window : ∀ remote session trafficClass, endpoint.roster.get? remote = some session →
    (session.limiter.window trafficClass).limit = settings.limit trafficClass

theorem limited_create (settings : EndpointSettings) :
    (Endpoint.create settings).Limited settings.flood where
  flood trafficClass := by cases trafficClass <;> rfl
  window _ _ _ stored := by cases stored

theorem Limited.limiterAt {flood : FloodSettings} (limited : endpoint.Limited flood)
    (remote : Address) (trafficClass : TrafficClass) :
    ((endpoint.limiterAt remote).window trafficClass).limit = flood.limit trafficClass := by
  cases stored : endpoint.roster.get? remote with
  | some session =>
    rw [limiterAt_of_get? stored]
    exact limited.window remote session trafficClass stored
  | none =>
    rw [limiterAt_of_none stored, ← limited.flood]
    cases trafficClass <;> rfl

theorem Limited.of_apply {flood : FloodSettings} (limited : start.Limited flood)
    (h : start.apply operation = .ok (outcome, finish)) : finish.Limited flood where
  flood trafficClass := by rw [flood_of_apply h, limited.flood]
  window remote next trafficClass stored := by
    rcases limiter_of_apply h stored with ⟨-, session, there, same⟩ | ⟨ruling, -, same⟩
    · rw [same]
      exact limited.window remote session trafficClass there
    · rw [same, RateLimiter.window_check]
      split
      · rw [CountingWindow.limit_hit]
        exact limited.limiterAt remote trafficClass
      · exact limited.limiterAt remote trafficClass

/-! ## The allowance of an address -/

/-- How much the session of a peer can still let through. -/
def allowance (endpoint : Endpoint) (remote : Address) (trafficClass : TrafficClass)
    (since : Instant) : Nat :=
  match endpoint.roster.get? remote with
  | some session => (session.limiter.window trafficClass).allowance since
  | none => 0

/-- A new session brings one limit more. -/
theorem allowance_limiterAt {flood : FloodSettings} (limited : endpoint.Limited flood)
    (remote : Address) (trafficClass : TrafficClass) (since : Instant) :
    ((endpoint.limiterAt remote).window trafficClass).allowance since =
      endpoint.allowance remote trafficClass since +
        (endpoint.roster.get? remote).isNone.toNat * (flood.limit trafficClass).maxCount := by
  cases stored : endpoint.roster.get? remote with
  | some session => simp [limiterAt_of_get? stored, allowance, stored]
  | none =>
    have fresh : (endpoint.limiterAt remote).window trafficClass =
        .fresh (endpoint.roster.flood.limit trafficClass) := by
      rw [limiterAt_of_none stored]
      cases trafficClass <;> rfl
    simp [fresh, CountingWindow.allowance_fresh, limited.flood, allowance, stored]

/-- A session lets through up to twice the limit. -/
theorem allowance_le {flood : FloodSettings} (limited : endpoint.Limited flood)
    (remote : Address) (trafficClass : TrafficClass) (since : Instant) :
    endpoint.allowance remote trafficClass since ≤
      2 * (endpoint.roster.get? remote).isSome.toNat * (flood.limit trafficClass).maxCount := by
  unfold allowance
  cases stored : endpoint.roster.get? remote with
  | some session =>
    have most := (session.limiter.window trafficClass).allowance_le since
    rw [limited.window remote session trafficClass stored] at most
    simpa using most
  | none => simp

/-- Without a ruling the peer's allowance stays or goes with its session. -/
theorem allowance_of_unruled (h : start.apply operation = .ok (outcome, finish))
    (unruled : start.ruling? remote operation = none) :
    finish.allowance remote trafficClass since ≤ start.allowance remote trafficClass since := by
  cases stored : finish.roster.get? remote with
  | none => simp [allowance, stored]
  | some next =>
    rcases limiter_of_apply h stored with ⟨-, session, there, same⟩ | ⟨ruling, decided, -⟩
    · simp [allowance, stored, there, same]
    · rw [unruled] at decided
      cases decided

/-- What a ruling lets through within the span uses up some of the allowance. -/
theorem allowance_of_ruled {flood : FloodSettings} (limited : start.Limited flood)
    (h : start.apply operation = .ok (outcome, finish))
    (decided : start.ruling? remote operation = some ruling)
    (within : ruling.isWithin since (flood.limit trafficClass) = true) :
    (ruling.passes trafficClass).toNat + finish.allowance remote trafficClass since ≤
      start.allowance remote trafficClass since +
        ruling.opened.toNat * (flood.limit trafficClass).maxCount := by
  obtain ⟨-, decision, opened⟩ := ruling?_eq_some decided
  rw [opened, ← allowance_limiterAt limited]
  simp only [Ruling.isWithin, Bool.and_eq_true, decide_eq_true_eq] at within
  have left : finish.allowance remote trafficClass since ≤
      (((start.limiterAt remote).check ruling.kind.trafficClass ruling.now).2.window
        trafficClass).allowance since := by
    cases stored : finish.roster.get? remote with
    | none => simp [allowance, stored]
    | some next =>
      rcases limiter_of_apply h stored with ⟨unruled, -⟩ | ⟨other, same, limiter⟩
      · rw [decided] at unruled
        cases unruled
      · rw [decided] at same
        cases same
        simp [allowance, stored, limiter]
  refine Nat.le_trans (Nat.add_le_add_left left _) ?_
  rw [RateLimiter.window_check]
  by_cases same : trafficClass = ruling.kind.trafficClass
  · subst same
    have counted : ruling.passes ruling.kind.trafficClass =
        (((start.limiterAt remote).window ruling.kind.trafficClass).hit ruling.now).1 := by
      rw [Ruling.passes, decision, Bool.eq_iff_iff, ← RateLimiter.check_eq_accept]
      simp
    rw [if_pos rfl, counted]
    exact CountingWindow.allowance_hit within.1 (by rw [limited.limiterAt]; exact within.2)
  · have uncounted : ruling.passes trafficClass = false := by
      simp [Ruling.passes, Ne.symm same]
    exact Nat.le_of_eq (by rw [if_neg same, uncounted, Bool.toNat_false, Nat.zero_add])

/-! ## The bound -/

theorem countP_toList {α : Type} (test : α → Bool) (found : Option α) :
    found.toList.countP test = (found.any test).toNat := by
  cases found with
  | none => rfl
  | some value =>
    rw [Option.toList_some, List.countP_singleton, Option.any_some]
    cases test value <;> rfl

theorem passed_cons (h : start.apply operation = .ok (outcome, middle)) (limit : WindowLimit)
    (rest : List Operation) :
    start.passed remote trafficClass since limit (operation :: rest) =
      ((start.ruling? remote operation).any fun ruling =>
        ruling.isWithin since limit && ruling.passes trafficClass).toNat +
        middle.passed remote trafficClass since limit rest := by
  rw [passed, rulings_cons h, List.countP_append, countP_toList]
  rfl

theorem renewed_cons (h : start.apply operation = .ok (outcome, middle)) (limit : WindowLimit)
    (rest : List Operation) :
    start.renewed remote since limit (operation :: rest) =
      ((start.ruling? remote operation).any fun ruling =>
        ruling.isWithin since limit && ruling.opened).toNat +
        middle.renewed remote since limit rest := by
  rw [renewed, rulings_cons h, List.countP_append, countP_toList]
  rfl

/-- Nothing counts after the span. -/
theorem passed_eq_zero {limit : WindowLimit} (onward : Onward clock operations)
    (past : since + limit.window < clock) :
    endpoint.passed remote trafficClass since limit operations = 0 := by
  rw [passed, List.countP_eq_zero]
  intro ruling among
  have late : ¬ ruling.now ≤ since + limit.window :=
    Nat.not_le_of_lt (Nat.lt_of_lt_of_le past (le_of_mem_rulings onward among))
  simp [Ruling.isWithin, late]

/-- From the beginning of the span on, the allowance and the new sessions bound what gets
through. -/
theorem passed_le_allowance {flood : FloodSettings} (limited : endpoint.Limited flood)
    (onward : Onward clock operations) (begun : since ≤ clock) :
    endpoint.passed remote trafficClass since (flood.limit trafficClass) operations ≤
      endpoint.allowance remote trafficClass since +
        endpoint.renewed remote since (flood.limit trafficClass) operations *
          (flood.limit trafficClass).maxCount := by
  induction operations generalizing endpoint clock with
  | nil => exact Nat.zero_le _
  | cons operation rest ih =>
    cases applied : endpoint.apply operation with
    | error halt => simp [passed, rulings_of_error applied]
    | ok result =>
      obtain ⟨forward, onward⟩ := onward_cons.mp onward
      have later := ih (limited.of_apply applied) onward (Nat.le_trans begun forward)
      rw [passed_cons applied, renewed_cons applied, Nat.add_mul]
      cases decided : endpoint.ruling? remote operation with
      | none =>
        have kept : result.2.allowance remote trafficClass since ≤
          endpoint.allowance remote trafficClass since := allowance_of_unruled applied decided
        simp only [Option.any_none, Bool.toNat_false, Nat.zero_add, Nat.zero_mul]
        omega
      | some ruling =>
        simp only [Option.any_some]
        cases within : ruling.isWithin since (flood.limit trafficClass) with
        | true =>
          have used := allowance_of_ruled limited applied decided within
          simp only [Bool.true_and]
          omega
        | false =>
          rw [clockAfter_of_ruling? decided] at forward onward
          have past : since + (flood.limit trafficClass).window < ruling.now := by
            simp only [Ruling.isWithin, Bool.and_eq_false_iff, decide_eq_false_iff_not] at within
            exact Nat.lt_of_not_le
              (within.resolve_left (not_not_intro (Nat.le_trans begun forward)))
          rw [passed_eq_zero onward past]
          simp

theorem passed_le_of_limited {flood : FloodSettings} (limited : endpoint.Limited flood)
    (onward : Onward clock operations) :
    endpoint.passed remote trafficClass since (flood.limit trafficClass) operations ≤
      (2 * (endpoint.residesAt remote since operations).toNat +
        endpoint.renewed remote since (flood.limit trafficClass) operations) *
          (flood.limit trafficClass).maxCount := by
  induction operations generalizing endpoint clock with
  | nil => exact Nat.zero_le _
  | cons operation rest ih =>
    obtain ⟨forward, later⟩ := onward_cons.mp onward
    cases reached : operation.time?.any (since ≤ ·) with
    | true =>
      have anew : Onward since (operation :: rest) := by
        obtain ⟨now, timed, after⟩ := (Option.any_eq_true ..).mp reached
        rw [Operation.clockAfter, timed] at later
        rw [onward_cons, Operation.clockAfter, timed]
        exact ⟨of_decide_eq_true after, later⟩
      rw [residesAt, if_pos reached, Nat.add_mul]
      exact Nat.le_trans (passed_le_allowance limited anew (Nat.le_refl since))
        (Nat.add_le_add_right (allowance_le limited remote trafficClass since) _)
    | false =>
      cases applied : endpoint.apply operation with
      | error halt => simp [passed, rulings_of_error applied]
      | ok result =>
        have early : ∀ test : Ruling → Bool, ((endpoint.ruling? remote operation).any fun ruling =>
            ruling.isWithin since (flood.limit trafficClass) && test ruling) = false := by
          intro test
          cases decided : endpoint.ruling? remote operation with
          | none => rfl
          | some ruling =>
            rw [time?_of_ruling? decided, Option.any_some, decide_eq_false_iff_not] at reached
            simp [Ruling.isWithin, reached]
        have rest := ih (limited.of_apply applied) later
        rw [passed_cons applied, renewed_cons applied, early, early, residesAt, reached, applied]
        simpa using rest

/-- Each datagram of a peer in a run is dealt with as the limiters have decided about it. -/
def Obeys (endpoint : Endpoint) (remote : Address) (operations : List Operation) : Prop :=
  ∀ before bytes now after outcomes start outcome finish,
    operations = before ++ .datagram remote bytes now :: after →
    endpoint.run before = .ok (outcomes, start) →
    start.apply (.datagram remote bytes now) = .ok (outcome, finish) →
    start.Handling remote bytes now outcome.report finish

theorem obeys (endpoint : Endpoint) (remote : Address) (operations : List Operation) :
    endpoint.Obeys remote operations :=
  fun _ _ _ _ _ _ _ _ _ _ applied => handling_of_apply applied

/-- In every run in which the clock does not go back, one address gets through within a
window's length, ends included, at most once the limit for each session that it gets in
that time, and twice the limit more if it had a session when that time began. Only what
gets through comes to a session. -/
theorem passed_le (settings : EndpointSettings) (onward : Onward 0 operations)
    (remote : Address) (trafficClass : TrafficClass) (since : Instant) :
    (Endpoint.create settings).passed remote trafficClass since
        (settings.flood.limit trafficClass) operations ≤
      (2 * ((Endpoint.create settings).residesAt remote since operations).toNat +
        (Endpoint.create settings).renewed remote since
          (settings.flood.limit trafficClass) operations) *
        (settings.flood.limit trafficClass).maxCount ∧
      (Endpoint.create settings).Obeys remote operations :=
  ⟨passed_le_of_limited (limited_create settings) onward, obeys _ _ _⟩

/-- One reliable datagram in a second. -/
def oneEachSecond : EndpointSettings := { flood := { reliable := ⟨1000, 1⟩ } }

/-- A peer sends a ping, leaves, and comes back to send another, all at once. -/
def returningPeer : List Operation :=
  [.datagram (.v4 default 1) [12, 0, 1] 0, .datagram (.v4 default 1) [9] 0,
    .datagram (.v4 default 1) [12, 0, 1] 0, .datagram (.v4 default 1) [9] 0,
    .datagram (.v4 default 1) [12, 0, 1] 0]

/-- A peer that comes back gets more than twice the limit through. -/
theorem twice_limit_lt_passed_returningPeer :
    Onward 0 returningPeer ∧
      ((Endpoint.create oneEachSecond).run returningPeer).toOption.isSome = true ∧
      2 * oneEachSecond.flood.reliable.maxCount <
        (Endpoint.create oneEachSecond).passed (.v4 default 1) .reliable 0
          oneEachSecond.flood.reliable returningPeer := by
  decide +kernel

/-- The bound is exact for it: three sessions, one datagram each. -/
theorem passed_le_returningPeer :
    Onward 0 returningPeer ∧
      (Endpoint.create oneEachSecond).residesAt (.v4 default 1) 0 returningPeer = false ∧
      (Endpoint.create oneEachSecond).renewed (.v4 default 1) 0 (oneEachSecond.flood.limit .reliable)
        returningPeer = 3 ∧
      (Endpoint.create oneEachSecond).passed (.v4 default 1) .reliable 0
        (oneEachSecond.flood.limit .reliable) returningPeer ≤ 3 ∧
      (Endpoint.create oneEachSecond).Obeys (.v4 default 1) returningPeer := by
  have onward : Onward 0 returningPeer := by decide
  have absent :
      (Endpoint.create oneEachSecond).residesAt (.v4 default 1) 0 returningPeer = false := by
    decide +kernel
  have thrice : (Endpoint.create oneEachSecond).renewed (.v4 default 1) 0
      (oneEachSecond.flood.limit .reliable) returningPeer = 3 := by
    decide +kernel
  have bound := passed_le oneEachSecond onward (.v4 default 1) .reliable 0
  rw [absent, thrice] at bound
  exact ⟨onward, absent, thrice, bound⟩

end Endpoint

end SessionLayer
