/-!
# Numbers in digits

A number is written with its most significant digit first. Digits from ten on
are letters, of either case.
-/

namespace SessionLayer.Digits

/-- The value of a digit in a base of at most thirty-six. -/
def value? (base : Nat) (c : Char) : Option Nat :=
  let value :=
    if c.isDigit then c.toNat - '0'.toNat
    else if 'a' ≤ c ∧ c ≤ 'z' then c.toNat - 'a'.toNat + 10
    else if 'A' ≤ c ∧ c ≤ 'Z' then c.toNat - 'A'.toNat + 10
    else base
  if value < base then some value else none

/-- The number that digits write. No digits write none. -/
def number? (base : Nat) : List Char → Option Nat
  | [] => none
  | digits => digits.foldlM (fun number c => (value? base c).map (base * number + ·)) 0

/-- The number that digits write, if it lies below `bound`. -/
def below? (bound base : Nat) (digits : List Char) : Option Nat :=
  (number? base digits).filter (· < bound)

end SessionLayer.Digits
