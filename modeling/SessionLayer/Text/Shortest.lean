/-!
# The shortest decimal of a binary fraction

A finite positive number of sixty-four bits is `mantissa · 2 ^ exponent`. The
reals nearest to it form an interval, whose ends belong to it when the mantissa
is even. Of the decimals in that interval, one with the fewest digits is
printed, and of several the nearest.

All arithmetic is on natural numbers: both ends and the value are fractions with
a common denominator.
-/

namespace SessionLayer.Shortest

/-- How many fractions there are for an exponent: they take fifty-two bits. -/
def fractions : Nat := 1 <<< 52

/-- How many exponents there are: they take eleven bits. -/
def exponents : Nat := 1 <<< 11

/-- The mantissa of a number's bits, with the leading one of a normal number. -/
def mantissa (bits : Nat) : Nat :=
  let fraction := bits % fractions
  if bits / fractions % exponents = 0 then fraction else fraction + fractions

/-- The exponent of a number's bits, raised by 1074 so that it is not
negative. -/
def raisedExponent (bits : Nat) : Nat := max (bits / fractions % exponents) 1 - 1

/-- A positive number as a fraction, with the ends of its interval over the same
denominator. -/
structure Interval where
  low : Nat
  value : Nat
  high : Nat
  denominator : Nat
  /-- Whether the ends belong to the interval. -/
  closed : Bool

/-- The interval of the reals nearest to a number. Below a power of two the
grid of numbers is twice as fine. -/
def Interval.ofBits (bits : Nat) : Interval :=
  let m := mantissa bits
  let scale := 1 <<< raisedExponent bits
  let fine := m = fractions && 0 < raisedExponent bits
  { low := (if fine then 4 * m - 1 else 4 * m - 2) * scale
    value := 4 * m * scale
    high := (4 * m + 2) * scale
    denominator := 1 <<< 1076
    closed := m % 2 = 0 }

/-- The same number times `10 ^ places` for a positive, or divided by
`10 ^ -places` for a negative count of places. -/
def Interval.shift (interval : Interval) (places : Int) : Interval :=
  let factor := Nat.pow 10 places.toNat
  { interval with
    low := interval.low * factor
    value := interval.value * factor
    high := interval.high * factor
    denominator := interval.denominator * Nat.pow 10 (-places).toNat }

/-- Whether a natural number lies in an interval. -/
def Interval.holds (interval : Interval) (n : Nat) : Bool :=
  let n := n * interval.denominator
  if interval.closed then interval.low ≤ n && n ≤ interval.high
  else interval.low < n && n < interval.high

/-- The natural number in an interval that is nearest to its value, if one of
the two neighbours of the value lies in it. -/
def Interval.nearest? (interval : Interval) : Option Nat :=
  let below := interval.value / interval.denominator
  let distance := interval.value % interval.denominator
  let upFirst := interval.denominator < 2 * distance
    || (interval.denominator = 2 * distance && below % 2 = 1)
  let candidates := if upFirst then [below + 1, below] else [below, below + 1]
  candidates.find? interval.holds

/-- Tries one digit after the other behind the decimal point: with `places` of
them first, then with more. -/
def search (interval : Interval) : Nat → Int → Option (Nat × Int)
  | 0, _ => none
  | tries + 1, places =>
    match (interval.shift places).nearest? with
    | some digits => some (digits, places)
    | none => search interval tries (places + 1)

/-- How many decimal places bring a number into the range from one to ten, or
one place less. -/
def firstPlaces (interval : Interval) : Int :=
  let whole := interval.value / interval.denominator
  if 0 < whole then 1 - ((Nat.toDigits 10 whole).length : Int)
  else ((Nat.toDigits 10 (interval.denominator / interval.value)).length : Int) - 1

/-- The digits of a finite number without its sign, and how many of them stand
behind the decimal point. -/
def decimal (number : Float) : Nat × Int :=
  let bits := number.toBits.toNat % (UInt64.size / 2)
  if bits = 0 then (0, 0)
  else
    let interval := Interval.ofBits bits
    (search interval 20 (firstPlaces interval - 1)).getD (0, 0)

/-- Digits with a point in front of the last `places` of them, where at least one
digit stands on each side of the point. -/
def positional (digits : Nat) (places : Int) : String :=
  let behind := max places.toNat 1
  let written := Nat.toDigits 10 (digits * Nat.pow 10 (behind - places).toNat)
  let padded := List.replicate (behind + 1 - written.length) '0' ++ written
  let point := padded.length - behind
  String.ofList (padded.take point ++ '.' :: padded.drop point)

/-- A finite number in its shortest form, with a point in it. -/
def text (number : Float) : String :=
  let (digits, places) := decimal number
  (if UInt64.size / 2 ≤ number.toBits.toNat then "-" else "") ++ positional digits places

end SessionLayer.Shortest
