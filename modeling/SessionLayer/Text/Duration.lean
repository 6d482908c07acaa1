import SessionLayer.Time

/-!
# Durations in words and figures

Players are told a duration in whole seconds, in words; logs show it in figures,
with the largest unit of which it holds at least one.
-/

namespace SessionLayer.Span

/-- A count of a unit, the unit in the plural unless there is one of it. -/
def counted (unit : String) (count : Nat) : String :=
  if count = 1 then "1 " ++ unit else toString count ++ " " ++ unit ++ "s"

/-- Days, hours, minutes and seconds in a number of seconds. -/
def parts (seconds : Nat) : List (Nat × String) :=
  [(seconds / 86400, "day"), (seconds % 86400 / 3600, "hour"), (seconds % 3600 / 60, "minute"),
    (seconds % 60, "second")]

/-- A duration in words: the parts that are not zero, the largest unit first. -/
def describe (span : Span) : String :=
  match (parts span.seconds).filter fun part => part.1 ≠ 0 with
  | [] => "0 seconds"
  | shown => String.intercalate " " (shown.map fun part => counted part.2 part.1)

/-- The digits of `value` after a decimal point, as many as `places`, without
zeros at the end. -/
def fraction (places value : Nat) : List Char :=
  let digits := Nat.toDigits 10 value
  let padded := List.replicate (places - digits.length) '0' ++ digits
  (padded.reverse.dropWhile (· = '0')).reverse

/-- A whole part and a fraction of `places` digits; no point where the fraction
is zero. -/
def decimal (whole places part : Nat) : String :=
  match fraction places part with
  | [] => toString whole
  | digits => toString whole ++ "." ++ String.ofList digits

/-- A duration in figures. -/
def figures (span : Span) : String :=
  if 1000000 ≤ span then decimal (span / 1000000) 6 (span % 1000000) ++ "s"
  else if 1000 ≤ span then decimal (span / 1000) 3 (span % 1000) ++ "ms"
  else if 1 ≤ span then toString span ++ "µs"
  else "0ns"

end SessionLayer.Span
