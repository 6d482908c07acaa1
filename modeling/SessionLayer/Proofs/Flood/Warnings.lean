import Mathlib.Data.List.DropRight
import SessionLayer.Proofs.Flood.Fairness
import SessionLayer.Proofs.Flood.Limiter

/-!
# When warnings become a penalty

A limiter keeps one list of warnings for both classes, forgets from it only what has lapsed,
and only when another warning is given. `RateLimiter.Follows` says that the list is nevertheless
what the refusals since the last penalty come to: what was forgotten of them has lapsed and
stays so. Therefore the decisions are those that the refusals call for, counted afresh each
time (`RateLimiter.escalates_exactly`).
-/

namespace SessionLayer.RateLimiter

/-- A datagram that is decided about. -/
structure Call where
  trafficClass : TrafficClass
  now : Instant
  deriving DecidableEq

/-- A datagram and what was decided about it. -/
structure Judgement where
  call : Call
  decision : RateDecision
  deriving DecidableEq

/-- The decisions about these datagrams, one after the other. -/
def judgements (limiter : RateLimiter) : List Call → List Judgement
  | [] => []
  | call :: rest =>
    let (decision, next) := limiter.check call.trafficClass call.now
    ⟨call, decision⟩ :: next.judgements rest

/-- The limiter after these datagrams. -/
def after (limiter : RateLimiter) (calls : List Call) : RateLimiter :=
  calls.foldl (fun limiter call => (limiter.check call.trafficClass call.now).2) limiter

/-- When the datagrams of a class came. -/
def timesOf (trafficClass : TrafficClass) (calls : List Call) : List Instant :=
  (calls.filter (·.trafficClass = trafficClass)).map Call.now

/-- When datagrams were refused, since the last penalty. -/
def refusedSince (log : List Judgement) : List Instant :=
  ((log.rtakeWhile (·.decision ≠ .penalize)).filter (·.decision ≠ .accept)).map (·.call.now)

/-- How many refusals count that came since the last penalty, with one at `now`: those that lie
no further back than `window`. -/
def standing (window : Span) (log : List Judgement) (now : Instant) : Nat :=
  (refusedSince log ++ [now]).countP (now - · ≤ window)

variable {limiter : RateLimiter} {settings : FloodSettings} {calls : List Call} {call : Call}
  {log : List Judgement} {now : Instant}

/-! ## One datagram more -/

theorem after_concat (limiter : RateLimiter) (calls : List Call) (call : Call) :
    limiter.after (calls ++ [call]) =
      ((limiter.after calls).check call.trafficClass call.now).2 := by
  rw [after, List.foldl_append]
  rfl

theorem judgements_concat (limiter : RateLimiter) (calls : List Call) (call : Call) :
    limiter.judgements (calls ++ [call]) = limiter.judgements calls ++
      [⟨call, ((limiter.after calls).check call.trafficClass call.now).1⟩] := by
  induction calls generalizing limiter with
  | nil => rfl
  | cons first rest ih =>
    simp only [List.cons_append, judgements, ih]
    rfl

theorem map_call_judgements (limiter : RateLimiter) (calls : List Call) :
    (limiter.judgements calls).map Judgement.call = calls := by
  induction calls generalizing limiter with
  | nil => rfl
  | cons first rest ih => simp only [judgements, List.map_cons, ih]

theorem timesOf_concat (trafficClass : TrafficClass) (calls : List Call) (call : Call) :
    timesOf trafficClass (calls ++ [call]) =
      if call.trafficClass = trafficClass then timesOf trafficClass calls ++ [call.now]
      else timesOf trafficClass calls := by
  rw [timesOf, List.filter_append, List.map_append]
  split
  · rename_i same
    rw [List.filter_cons_of_pos (by simpa using same)]
    rfl
  · rename_i other
    rw [List.filter_cons_of_neg (by simpa using other)]
    exact List.append_nil _

theorem refusedSince_accept : refusedSince (log ++ [⟨call, .accept⟩]) = refusedSince log := by
  rw [refusedSince, List.rtakeWhile_concat_pos _ _ _ (by simp), List.filter_append, List.map_append]
  exact List.append_nil _

theorem refusedSince_drop (warnings : Nat) :
    refusedSince (log ++ [⟨call, .drop warnings⟩]) = refusedSince log ++ [call.now] := by
  rw [refusedSince, List.rtakeWhile_concat_pos _ _ _ (by simp), List.filter_append, List.map_append]
  rfl

theorem refusedSince_penalize : refusedSince (log ++ [⟨call, .penalize⟩]) = [] := by
  rw [refusedSince, List.rtakeWhile_concat_neg _ _ _ (by simp)]
  rfl

/-- Where the datagrams come in order, none of them comes after the last. -/
theorem sorted_concat (sorted : ((calls ++ [call]).map Call.now).Pairwise (· ≤ ·)) :
    (calls.map Call.now).Pairwise (· ≤ ·) ∧ ∀ earlier ∈ calls, earlier.now ≤ call.now := by
  rw [List.map_append, List.pairwise_append] at sorted
  exact ⟨sorted.1, fun earlier present =>
    sorted.2.2 _ (List.mem_map_of_mem present) _ (List.mem_singleton_self _)⟩

/-- Refusals are among the datagrams. -/
theorem refusedSince_sublist (limiter : RateLimiter) (calls : List Call) :
    (refusedSince (limiter.judgements calls)).Sublist (calls.map Call.now) := by
  have since := (List.rtakeWhile_suffix (·.decision ≠ .penalize) (limiter.judgements calls)).sublist
  have among := (List.filter_sublist (p := (·.decision ≠ .accept))).trans since
  have times : calls.map Call.now = (limiter.judgements calls).map (·.call.now) := by
    conv_lhs => rw [← map_call_judgements limiter calls, List.map_map]
    rfl
  rw [times]
  exact among.map (·.call.now)

/-! ## What counts of the warnings -/

/-- What a warning brings, by how many count with it. -/
theorem warn_eq (limiter : RateLimiter) (now : Instant) :
    limiter.warn now =
      if limiter.maxWarnings ≤ (limiter.counting now ++ [now]).length then
        (.penalize, { limiter with warnings := [] })
      else
        (.drop (limiter.counting now ++ [now]).length,
          { limiter with warnings := limiter.counting now ++ [now] }) :=
  rfl

/-- There are never as many warnings as bring a penalty. -/
theorem length_warnings_warn_lt (limiter : RateLimiter) (now : Instant) :
    (limiter.warn now).2.warnings.length < max 1 limiter.maxWarnings := by
  rw [warn_eq]
  split
  · exact Nat.lt_of_lt_of_le Nat.zero_lt_one (Nat.le_max_left ..)
  · rename_i few
    exact Nat.lt_of_lt_of_le (Nat.lt_of_not_le few) (Nat.le_max_right ..)

/-- The warnings are what is left of the refusals without those that had lapsed by `clock`. -/
def RestOf (limiter : RateLimiter) (refusals : List Instant) (clock : Instant) : Prop :=
  ∃ lapsed, refusals = lapsed ++ limiter.warnings ∧
    ∀ given ∈ lapsed, limiter.warningsWindow < clock - given

section Rest

variable {refusals : List Instant} {clock : Instant}

theorem RestOf.later (rest : limiter.RestOf refusals clock) (later : clock ≤ now) :
    limiter.RestOf refusals now := by
  obtain ⟨lapsed, split, gone⟩ := rest
  exact ⟨lapsed, split, fun given present =>
    Nat.lt_of_lt_of_le (gone given present) (Nat.sub_le_sub_right later given)⟩

theorem RestOf.congr {next : RateLimiter} (rest : limiter.RestOf refusals clock)
    (warnings : next.warnings = limiter.warnings)
    (window : next.warningsWindow = limiter.warningsWindow) : next.RestOf refusals clock := by
  rw [RestOf, warnings, window]
  exact rest

theorem RestOf.pairwise (rest : limiter.RestOf refusals clock)
    (sorted : refusals.Pairwise (· ≤ ·)) : limiter.warnings.Pairwise (· ≤ ·) := by
  obtain ⟨lapsed, rfl, -⟩ := rest
  exact (List.pairwise_append.mp sorted).2.1

/-- What is forgotten for a warning has lapsed then. -/
theorem RestOf.warn (rest : limiter.RestOf refusals now) :
    ({ limiter with warnings := limiter.counting now ++ [now] } : RateLimiter).RestOf
      (refusals ++ [now]) now := by
  obtain ⟨lapsed, split, gone⟩ := rest
  refine ⟨lapsed ++ limiter.warnings.takeWhile (limiter.warningsWindow < now - ·), ?_, ?_⟩
  · rw [split, counting]
    simp only [List.append_assoc, ← List.append_assoc (List.takeWhile _ _),
      List.takeWhile_append_dropWhile]
  · intro given present
    rcases List.mem_append.mp present with before | forgotten
    · exact gone given before
    · simpa only [decide_eq_true_eq] using List.mem_takeWhile_imp forgotten

/-- As many warnings count, with a new one, as refusals do. -/
theorem RestOf.length_counting (rest : limiter.RestOf refusals now)
    (sorted : refusals.Pairwise (· ≤ ·)) :
    (limiter.counting now ++ [now]).length =
      (refusals ++ [now]).countP (now - · ≤ limiter.warningsWindow) := by
  have ordered := rest.pairwise sorted
  obtain ⟨lapsed, rfl, gone⟩ := rest
  have uncounted : lapsed.countP (now - · ≤ limiter.warningsWindow) = 0 :=
    List.countP_eq_zero.mpr fun given present recent =>
      Nat.not_le_of_lt (gone given present) (of_decide_eq_true recent)
  have last : [now].countP (now - · ≤ limiter.warningsWindow) = 1 := by simp
  rw [counting_eq_filter ordered, List.countP_append, List.countP_append, uncounted,
    last, Nat.zero_add, List.length_append, List.countP_eq_length_filter, List.length_singleton]

end Rest

/-! ## The limiter and its past -/

/-- A limiter with these settings that has decided about these datagrams, the last of them
no later than `clock`. -/
structure Follows (settings : FloodSettings) (calls : List Call) (clock : Instant)
    (limiter : RateLimiter) : Prop where
  windows : ∀ trafficClass, limiter.window trafficClass =
    (CountingWindow.fresh (settings.limit trafficClass)).after (timesOf trafficClass calls)
  warningsWindow : limiter.warningsWindow = settings.warningsWindow
  maxWarnings : limiter.maxWarnings = settings.maxWarnings
  warned : limiter.RestOf (refusedSince ((fresh settings).judgements calls)) clock
  few : limiter.warnings.length < max 1 settings.maxWarnings

theorem follows_fresh (settings : FloodSettings) (clock : Instant) :
    (fresh settings).Follows settings [] clock where
  windows trafficClass := by cases trafficClass <;> rfl
  warningsWindow := rfl
  maxWarnings := rfl
  warned := ⟨[], rfl, nofun⟩
  few := Nat.lt_of_lt_of_le Nat.zero_lt_one (Nat.le_max_left ..)

variable {clock : Instant}

theorem Follows.later (follows : limiter.Follows settings calls clock) (later : clock ≤ now) :
    limiter.Follows settings calls now :=
  { follows with warned := follows.warned.later later }

/-- As many warnings count, with a new one, as refusals stand. -/
theorem Follows.length_counting (follows : limiter.Follows settings calls now)
    (sorted : (calls.map Call.now).Pairwise (· ≤ ·)) :
    (limiter.counting now ++ [now]).length =
      standing settings.warningsWindow ((fresh settings).judgements calls) now := by
  have ordered := sorted.sublist (refusedSince_sublist (fresh settings) calls)
  rw [standing, ← follows.warningsWindow]
  exact follows.warned.length_counting ordered

/-- A datagram that the window of its class accepts is accepted, and no warning changes. -/
theorem Follows.check_of_accepts (follows : limiter.Follows settings calls clock)
    (accepts : (((CountingWindow.fresh (settings.limit call.trafficClass)).after
      (timesOf call.trafficClass calls)).hit call.now).1 = true) :
    (limiter.check call.trafficClass call.now).1 = .accept ∧
      (limiter.check call.trafficClass call.now).2.warnings = limiter.warnings := by
  rw [← follows.windows] at accepts
  rw [check_of_within accepts]
  exact ⟨rfl, warnings_hit ..⟩

/-- What is decided about a datagram that the window of its class does not accept, and the
warnings after it. -/
theorem Follows.check_of_refuses (follows : limiter.Follows settings calls call.now)
    (sorted : (calls.map Call.now).Pairwise (· ≤ ·))
    (refuses : (((CountingWindow.fresh (settings.limit call.trafficClass)).after
      (timesOf call.trafficClass calls)).hit call.now).1 = false) :
    ((limiter.check call.trafficClass call.now).1,
        (limiter.check call.trafficClass call.now).2.warnings) =
      if settings.maxWarnings ≤
          standing settings.warningsWindow ((fresh settings).judgements calls) call.now then
        (.penalize, [])
      else
        (.drop (standing settings.warningsWindow ((fresh settings).judgements calls) call.now),
          limiter.counting call.now ++ [call.now]) := by
  have counted := follows.length_counting sorted
  rw [← follows.windows] at refuses
  rw [check_of_above refuses, warn_eq, ← counted, ← follows.maxWarnings, counting_hit,
    maxWarnings_hit]
  split <;> rfl

/-- The limiter follows when it decides about the next datagram. -/
theorem Follows.check (follows : limiter.Follows settings calls call.now)
    (sorted : (calls.map Call.now).Pairwise (· ≤ ·))
    (is : (fresh settings).after calls = limiter) :
    (limiter.check call.trafficClass call.now).2.Follows settings (calls ++ [call]) call.now where
  windows trafficClass := by
    rw [window_check, timesOf_concat, follows.windows]
    by_cases same : call.trafficClass = trafficClass
    · rw [if_pos same.symm, if_pos same, CountingWindow.after_concat]
    · rw [if_neg (Ne.symm same), if_neg same]
  warningsWindow := (warningsWindow_check ..).1.trans follows.warningsWindow
  maxWarnings := (warningsWindow_check ..).2.trans follows.maxWarnings
  warned := by
    rw [judgements_concat, is]
    cases verdict : (((CountingWindow.fresh (settings.limit call.trafficClass)).after
        (timesOf call.trafficClass calls)).hit call.now).1 with
    | true =>
      obtain ⟨decision, warnings⟩ := follows.check_of_accepts verdict
      rw [decision, refusedSince_accept]
      exact follows.warned.congr warnings (warningsWindow_check ..).1
    | false =>
      have ruled := follows.check_of_refuses sorted verdict
      split at ruled
      · obtain ⟨decision, warnings⟩ := Prod.mk.inj ruled
        rw [decision, refusedSince_penalize]
        exact ⟨[], warnings.symm, nofun⟩
      · obtain ⟨decision, warnings⟩ := Prod.mk.inj ruled
        rw [decision, refusedSince_drop]
        exact follows.warned.warn.congr warnings (warningsWindow_check ..).1
  few := by
    cases within : ((limiter.window call.trafficClass).hit call.now).1 with
    | true =>
      rw [check_of_within within, warnings_hit]
      exact follows.few
    | false =>
      rw [check_of_above within, ← follows.maxWarnings]
      have few := length_warnings_warn_lt (limiter.hit call.trafficClass call.now).2 call.now
      rwa [maxWarnings_hit] at few

theorem follows_after (settings : FloodSettings)
    (sorted : (calls.map Call.now).Pairwise (· ≤ ·)) (latest : ∀ call ∈ calls, call.now ≤ clock) :
    ((fresh settings).after calls).Follows settings calls clock := by
  induction calls using List.reverseRecOn generalizing clock with
  | nil => exact follows_fresh settings clock
  | append_singleton calls call ih =>
    obtain ⟨sorted, before⟩ := sorted_concat sorted
    have next := (ih sorted before).check sorted rfl
    rw [after_concat]
    exact next.later (latest call (List.mem_append_right _ (List.mem_singleton_self call)))

/-- The counts of a limiter are kept in thirty-two bits, and a session halts where one of them
does not fit (`Session.checkRate`). All of them fit as long as fewer than `2 ^ 32` datagrams of
a class come within each interval as long as its window. -/
theorem count_check_lt (settings : FloodSettings) (calls : List Call) (call : Call)
    (sorted : ((calls ++ [call]).map Call.now).Pairwise (· ≤ ·))
    (few : ∀ trafficClass since, CountingWindow.inSpan since (settings.limit trafficClass).window
      (timesOf trafficClass (calls ++ [call])) < UInt32.size) (trafficClass : TrafficClass) :
    ((((fresh settings).after calls).check call.trafficClass call.now).2.window
      trafficClass).count < UInt32.size := by
  have ordered : (timesOf trafficClass (calls ++ [call])).Pairwise (· ≤ ·) :=
    sorted.sublist (List.filter_sublist.map _)
  obtain ⟨since, counted⟩ :=
    CountingWindow.exists_count_after_le (settings.limit trafficClass) ordered
  obtain ⟨sorted, before⟩ := sorted_concat sorted
  rw [((follows_after settings sorted before).check sorted rfl).windows]
  exact Nat.lt_of_le_of_lt counted (few trafficClass since)

/-- For datagrams of either class at times that do not go back: one that the window of its
class accepts is accepted, and no warning changes. Any other brings a penalty exactly if the
refusals since the last penalty that still count, this one included, are as many as bring one,
and is otherwise dropped with their number. There are never as many warnings as bring a
penalty. -/
theorem escalates_exactly (settings : FloodSettings) (calls : List Call) (call : Call)
    (sorted : ((calls ++ [call]).map Call.now).Pairwise (· ≤ ·)) :
    let limiter := (fresh settings).after calls
    let window := (CountingWindow.fresh (settings.limit call.trafficClass)).after
      (timesOf call.trafficClass calls)
    let count := standing settings.warningsWindow ((fresh settings).judgements calls) call.now
    let outcome := limiter.check call.trafficClass call.now
    ((window.hit call.now).1 = true →
      outcome.1 = .accept ∧ outcome.2.warnings = limiter.warnings) ∧
    ((window.hit call.now).1 = false →
      (outcome.1 = .penalize ↔ settings.maxWarnings ≤ count) ∧
      (outcome.1 ≠ .penalize → outcome.1 = .drop count)) ∧
    limiter.warnings.length < max 1 settings.maxWarnings ∧
    outcome.2.warnings.length < max 1 settings.maxWarnings := by
  obtain ⟨sorted, before⟩ := sorted_concat sorted
  have follows := follows_after settings sorted before
  refine ⟨follows.check_of_accepts, fun refuses => ?_, follows.few,
    (follows.check sorted rfl).few⟩
  have ruled := congrArg Prod.fst (follows.check_of_refuses sorted refuses)
  split at ruled
  · rename_i enough
    exact ⟨iff_of_true ruled enough, fun spared => absurd ruled spared⟩
  · rename_i few
    have dropped : (((fresh settings).after calls).check call.trafficClass call.now).1 =
      .drop _ := ruled
    exact ⟨iff_of_false (by rw [dropped]; nofun) few, fun _ => dropped⟩

/-- One reliable and no unreliable datagram each millisecond. Three warnings within a
millisecond bring a penalty. -/
def strict : FloodSettings :=
  { reliable := ⟨1, 1⟩, unreliable := ⟨1, 0⟩, warningsWindowMs := 1, maxWarnings := 3 }

/-- Refusals of both classes that bring a penalty, and two that follow it, the first of which
has lapsed a millisecond after the second. -/
def mixedRefusals : List Call :=
  [⟨.unreliable, 0⟩, ⟨.reliable, 0⟩, ⟨.reliable, 0⟩, ⟨.unreliable, 500⟩, ⟨.unreliable, 600⟩,
    ⟨.reliable, 700⟩, ⟨.unreliable, 1700⟩]

/-- The next refusal makes three within a millisecond, both ends included. -/
theorem escalates_exactly_mixedRefusals :
    ((mixedRefusals ++ [Call.mk .unreliable 1700]).map Call.now).Pairwise (· ≤ ·) ∧
      ((fresh strict).judgements mixedRefusals).map Judgement.decision =
        [.drop 1, .accept, .drop 2, .penalize, .drop 1, .drop 2, .drop 2] ∧
      standing strict.warningsWindow ((fresh strict).judgements mixedRefusals) 1700 = 3 ∧
      (((fresh strict).after mixedRefusals).check .unreliable 1700).1 = .penalize := by
  have sorted :
      ((mixedRefusals ++ [Call.mk .unreliable 1700]).map Call.now).Pairwise (· ≤ ·) := by
    decide
  have count : standing strict.warningsWindow ((fresh strict).judgements mixedRefusals) 1700 =
      3 := by
    decide
  obtain ⟨-, refused, -⟩ := escalates_exactly strict mixedRefusals ⟨.unreliable, 1700⟩ sorted
  exact ⟨sorted, by decide, count, (refused (by decide)).1.mpr (Nat.le_of_eq count.symm)⟩

end SessionLayer.RateLimiter
