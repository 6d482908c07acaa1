import SessionLayer.Flood.Window
import SessionLayer.Packet.Kind

/-!
# Limiting what a peer sends

The two classes of datagrams have a window each. A datagram above the limit is
dropped and leaves a warning. When enough warnings come together within a span
of time, they are taken back and a penalty is due.
-/

namespace SessionLayer

/-- What is to be done with a datagram. -/
inductive RateDecision
  | accept
  /-- The datagram is above the limit; so many warnings count now. -/
  | drop (warnings : Nat)
  /-- There are too many warnings. -/
  | penalize
  deriving DecidableEq

/-- The windows and warnings of one peer. -/
structure RateLimiter where
  reliable : CountingWindow
  unreliable : CountingWindow
  /-- When the warnings that count were given, oldest first. -/
  warnings : List Instant
  warningsWindow : Span
  maxWarnings : Nat
  deriving DecidableEq

namespace RateLimiter

/-- The limiter of a peer that sent nothing yet. -/
def fresh (settings : FloodSettings) : RateLimiter where
  reliable := .fresh settings.reliable
  unreliable := .fresh settings.unreliable
  warnings := []
  warningsWindow := settings.warningsWindow
  maxWarnings := settings.maxWarnings

/-- Counts one datagram in the window of its class and says whether it is within
the limit. -/
def hit (limiter : RateLimiter) (trafficClass : TrafficClass) (now : Instant) :
    Bool × RateLimiter :=
  match trafficClass with
  | .reliable =>
    let (within, reliable) := limiter.reliable.hit now
    (within, { limiter with reliable })
  | .unreliable =>
    let (within, unreliable) := limiter.unreliable.hit now
    (within, { limiter with unreliable })

/-- Adds a warning, forgets the oldest ones as far as they do not count any
more, and decides between a drop and a penalty. -/
def warn (limiter : RateLimiter) (now : Instant) : RateDecision × RateLimiter :=
  let counting := limiter.warnings.dropWhile fun given => limiter.warningsWindow < now - given
  let warnings := counting ++ [now]
  if limiter.maxWarnings ≤ warnings.length then (.penalize, { limiter with warnings := [] })
  else (.drop warnings.length, { limiter with warnings })

/-- Decides about one datagram. -/
def check (limiter : RateLimiter) (trafficClass : TrafficClass) (now : Instant) :
    RateDecision × RateLimiter :=
  let (within, limiter) := limiter.hit trafficClass now
  if within then (.accept, limiter) else limiter.warn now

end RateLimiter

end SessionLayer
