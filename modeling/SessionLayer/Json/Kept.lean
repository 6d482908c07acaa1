import SessionLayer.Json.Decimal
import SessionLayer.Text.Shortest

/-!
# Values that are kept

A value that is kept for later does not remember how its numbers were written. A
whole number is kept as a word of sixty-four bits, if one holds it, and any other
number as a float.
-/

namespace SessionLayer.Json

/-- Whether a number is written as a whole number that a word of sixty-four bits
holds, with or without a sign. A zero with a sign is none. -/
def isWord (literal : List Char) : Bool :=
  match literal with
  | '-' :: digits => (Digits.below? (UInt64.size / 2 + 1) 10 digits).any (0 < ·)
  | digits => (Digits.below? UInt64.size 10 digits).isSome

/-- A number as it is kept: a word, or else the float that it stands for. -/
def keptNumber (literal : List Char) : List Char :=
  if isWord literal then literal
  else
    match (Decimal.ofLiteral literal).toFloat? with
    | some float => (Shortest.text float).toList
    | none => literal

mutual

/-- A value with its numbers as they are kept. -/
def kept : Json → Json
  | .number literal => .number (keptNumber literal)
  | .array items => .array (keptItems items)
  | .object members => .object (keptMembers members)
  | value => value

/-- The values of an array with their numbers as they are kept. -/
def keptItems : List Json → List Json
  | [] => []
  | item :: rest => kept item :: keptItems rest

/-- The members of an object with their numbers as they are kept. -/
def keptMembers : List (Option String × Json) → List (Option String × Json)
  | [] => []
  | (key, value) :: rest => (key, kept value) :: keptMembers rest

end

end SessionLayer.Json
