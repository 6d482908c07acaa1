import SessionLayer.Json.Basic

/-!
# Numbers with a fraction

A number that need not be whole is read as a float. Its digits, as many as a word
of sixty-four bits takes, are one whole number, and a power of ten moves the
point to its place. Both steps round, so that a number of more than fifteen
digits may be read as a neighbour of the nearest float.
-/

namespace SessionLayer.Json

/-- Digits, and the power of ten that they are multiplied with. -/
structure Decimal where
  isNegative : Bool
  digits : Nat
  exponent : Int
  deriving DecidableEq

namespace Decimal

/-- Appends digits to a number, up to the first that a word has no place for. The
digits from there on are handed back. -/
def append (number : Nat) : List Char → Nat × List Char
  | [] => (number, [])
  | c :: rest =>
    let next := number * 10 + (c.toNat - '0'.toNat)
    if next < UInt64.size then append next rest else (number, c :: rest)

/-- The digits of a whole part and a fraction. A digit of the whole part that is
left out counts as a zero, one of the fraction not at all. -/
def ofParts (isNegative : Bool) (whole fraction : List Char) (exponent : Int) : Decimal :=
  let (front, dropped) := append 0 whole
  let (digits, left) := append front fraction
  { isNegative, digits, exponent := exponent + dropped.length - (fraction.length - left.length) }

/-- The exponent that digits behind an optional sign write. -/
def signed : List Char → Int
  | '-' :: digits => -((Digits.number? 10 digits).getD 0 : Nat)
  | '+' :: digits => ((Digits.number? 10 digits).getD 0 : Nat)
  | digits => ((Digits.number? 10 digits).getD 0 : Nat)

/-- The parts of a number as it is written. -/
def ofLiteral (literal : List Char) : Decimal :=
  let (isNegative, unsigned) := match literal with
    | '-' :: rest => (true, rest)
    | _ => (false, literal)
  let beyond := unsigned.dropWhile Char.isDigit
  let (fraction, beyond) := match beyond with
    | '.' :: rest => (rest.takeWhile Char.isDigit, rest.dropWhile Char.isDigit)
    | _ => ([], beyond)
  ofParts isNegative (unsigned.takeWhile Char.isDigit) fraction (signed (beyond.drop 1))

/-- A power of ten, which is finite up to the three hundred and eighth. -/
def power (exponent : Nat) : Float := Float.ofScientific 1 false exponent

/-- Divides by a power of ten, in steps that are finite. -/
def scaleDown (number : Float) (places : Nat) : Float :=
  if places ≤ 308 then number / power places
  else if number == 0.0 then number
  else scaleDown (number / power 308) (places - 308)
  termination_by places

/-- Multiplies with a power of ten. -/
def scaleUp? (number : Float) (places : Nat) : Option Float :=
  if number == 0.0 then some number
  else if 308 < places then none
  else
    let scaled := number * power places
    if scaled.isFinite then some scaled else none

/-- The float that a decimal stands for. One that is too large stands for none. -/
def toFloat? (decimal : Decimal) : Option Float := do
  let number := Float.ofNat decimal.digits
  let size ←
    if 0 ≤ decimal.exponent then scaleUp? number decimal.exponent.toNat
    else some (scaleDown number (-decimal.exponent).toNat)
  return if decimal.isNegative then -size else size

end Decimal

/-- The float that a number stands for. -/
def float? : Json → Option Float
  | .number literal => (Decimal.ofLiteral literal).toFloat?
  | _ => none

end SessionLayer.Json
