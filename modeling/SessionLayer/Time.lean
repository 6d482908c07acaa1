/-!
# Time

Nothing in this library reads a clock: every operation is told the time. An
instant is the number of microseconds that the clock shows, and the span from
one instant to another is their difference, which is zero where the second lies
before the first.

The clock itself is finite. `Halt` names this and the few other reasons for
which an operation does not return at all.
-/

namespace SessionLayer

/-- Microseconds since the clock showed zero. -/
abbrev Instant := Nat

/-- A length of time in microseconds. -/
abbrev Span := Nat

namespace Span

/-- The span of so many milliseconds. -/
def ofMillis (count : Nat) : Span := count * 1000

/-- The span of so many seconds. -/
def ofSeconds (count : Nat) : Span := count * 1000000

/-- The whole seconds of a span. -/
def seconds (span : Span) : Nat := span / 1000000

/-- The whole milliseconds of a span. -/
def millis (span : Span) : Nat := span / 1000

end Span

/-- Why an operation does not return. -/
inductive Halt
  /-- An instant lies past the end of the clock. -/
  | clockOverflow
  /-- A counter has no room for one more. -/
  | counterOverflow
  /-- A number has no room for the sum that it is packed from. -/
  | packingOverflow
  /-- A list was asked to have room for more items than memory can hold. -/
  | capacityOverflow
  /-- A free packet number was looked for, and every number is taken. -/
  | sequencesExhausted
  deriving DecidableEq

/-- The span of so many seconds and nanoseconds, as many whole microseconds as it
has. Its seconds are counted in sixty-four bits. -/
def Span.ofParts (count nanos : Nat) : Except Halt Span :=
  if count + nanos / 1000000000 < UInt64.size then .ok (Span.ofSeconds count + nanos / 1000)
  else .error .counterOverflow

namespace Instant

/-- The end of the clock, which counts seconds in sixty-three bits. -/
def bound : Nat := Span.ofSeconds (UInt64.size / 2)

/-- The instant that lies `span` after `start`, if the clock reaches it. -/
def after (start : Instant) (span : Span) : Except Halt Instant :=
  if start + span < bound then .ok (start + span) else .error .clockOverflow

end Instant

end SessionLayer
