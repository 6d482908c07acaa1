import SessionLayer.Time

/-!
# The timer of the sweeps

A timer comes due at regular intervals. Whoever waits for it may come late; the
timer then either starts a new interval from that moment and counts what was
missed, or keeps to its old rhythm. Coming late by more than a tenth of the
interval counts as an overrun.

When somebody who waits wakes up is not for the timer to say: it is told the
time. Its accounts have sixty-four bits. A timer halts when one of them is full,
and when its next deadline lies past the end of the clock.
-/

namespace SessionLayer

/-- What a timer does when its owner comes late. -/
inductive LatePolicy
  /-- The next interval starts now; the sweeps that were missed are counted. -/
  | skip
  /-- The next interval starts where this one should have ended. -/
  | keep
  deriving DecidableEq

/-- The name of a policy. -/
def LatePolicy.name : LatePolicy → String
  | .skip => "Skip"
  | .keep => "Keep"

/-- How a timer runs. -/
structure SweepSettings where
  /-- The time between two sweeps; zero stands for never. -/
  interval : Span := .ofMillis 2000
  policy : LatePolicy := .skip
  /-- The share of an interval that a sweep may take before it is remarked on. -/
  budgetThreshold : Float := 0.25
  /-- The first sweep is put off by less than this. -/
  jitter : Span := .ofMillis 50

namespace SweepSettings

/-- The shortest interval. -/
def minInterval : Span := .ofMillis 10

/-- The usual settings with another interval. -/
def every (interval : Span) : SweepSettings := { interval }

/-- A timer that never comes due. -/
def disabled : SweepSettings := every 0

/-- A share that is neither below none nor above all. -/
def clampShare (share : Float) : Float :=
  if share < 0.0 then 0.0 else if 1.0 < share then 1.0 else share

/-- The settings with unusable values raised or lowered. -/
def validated (settings : SweepSettings) : SweepSettings :=
  { settings with
    interval := if settings.interval = 0 then 0 else max settings.interval minInterval
    budgetThreshold := clampShare settings.budgetThreshold }

/-- Whether the timer never comes due. -/
def isDisabled (settings : SweepSettings) : Bool := settings.interval = 0

end SweepSettings

/-- What is known about a sweep when it comes due. -/
structure SweepInfo where
  /-- Sweeps are numbered from one. -/
  sweep : Nat
  lateBy : Span
  /-- How many sweeps were missed. -/
  skipped : Nat
  deriving DecidableEq

/-- A timer and its accounts. -/
structure SweepTimer where
  settings : SweepSettings
  sweepCount : Nat
  /-- When the timer comes due; a timer without a deadline never does. -/
  deadline : Option Instant
  /-- Whether a sweep has come due whose end was not told yet. -/
  isSweeping : Bool
  totalSweeps : Nat
  totalOverruns : Nat
  totalSkipped : Nat
  /-- How many sessions the last sweep visited. -/
  lastVisited : Nat

namespace SweepTimer

/-- A timer with empty accounts. -/
def fresh (settings : SweepSettings) (deadline : Option Instant) : SweepTimer where
  settings
  sweepCount := 0
  deadline
  isSweeping := false
  totalSweeps := 0
  totalOverruns := 0
  totalSkipped := 0
  lastVisited := 0

/-- A timer that is started now, its first sweep put off by `delay`. -/
def start (settings : SweepSettings) (now : Instant) (delay : Span) : Except Halt SweepTimer :=
  let settings := settings.validated
  if settings.isDisabled then .ok (fresh settings none)
  else (fresh settings ∘ some) <$> now.after (settings.interval + delay)

/-- Whether the timer never comes due. -/
def isDisabled (timer : SweepTimer) : Bool := timer.deadline.isNone

/-- The accounts of a timer have sixty-four bits. -/
def countersFit (timer : SweepTimer) : Bool :=
  timer.sweepCount < UInt64.size && timer.totalSweeps < UInt64.size
    && timer.totalOverruns < UInt64.size && timer.totalSkipped < UInt64.size

/-- Comes due at `now`, with the deadline at `due`. -/
def comeDue (timer : SweepTimer) (due now : Instant) : SweepInfo × SweepTimer :=
  let interval := timer.settings.interval
  let lateBy := now - due
  let overrun := interval / 10 < lateBy
  let skipped :=
    match timer.settings.policy with
    | .skip => if overrun then lateBy / interval % UInt64.size else 0
    | .keep => 0
  let next :=
    match timer.settings.policy with
    | .skip => now + interval
    | .keep => due + interval
  (⟨timer.sweepCount + 1, lateBy, skipped⟩,
    { timer with
      sweepCount := timer.sweepCount + 1
      deadline := some next
      isSweeping := true
      totalSweeps := timer.totalSweeps + 1
      totalOverruns := timer.totalOverruns + if overrun then 1 else 0
      totalSkipped := timer.totalSkipped + skipped })

/-- Comes due, and halts if there is no next deadline or an account is full. -/
def fire (timer : SweepTimer) (due now : Instant) : Except Halt (SweepInfo × SweepTimer) :=
  let (info, timer) := timer.comeDue due now
  if timer.deadline.any (Instant.bound ≤ ·) then .error .clockOverflow
  else if timer.countersFit then .ok (info, timer)
  else .error .counterOverflow

/-- Waits for the timer and wakes up at `woken`. Waiting for a timer that never
comes due does not end. -/
def wait (timer : SweepTimer) (woken : Instant) : Except Halt (Option (SweepInfo × SweepTimer)) :=
  match timer.deadline with
  | none => .ok none
  | some due => some <$> timer.fire due woken

/-- Waits for the timer, but gives up at `givenUp` unless the wait has ended by
then. A wait that is given up leaves the timer as it is. -/
def waitAtMost (timer : SweepTimer) (givenUp woken : Instant) :
    Except Halt (Option (SweepInfo × SweepTimer)) :=
  if givenUp < woken then .ok none else timer.wait woken

/-- Whether the timer is due. -/
def isDue (timer : SweepTimer) (now : Instant) : Bool := timer.deadline.any (· ≤ now)

/-- Is told the end of a sweep and how many sessions it visited. An end without
a sweep is ignored. -/
def recordEnd (timer : SweepTimer) (visited : Nat) : SweepTimer :=
  if timer.isSweeping then { timer with isSweeping := false, lastVisited := visited } else timer

end SweepTimer

end SessionLayer
