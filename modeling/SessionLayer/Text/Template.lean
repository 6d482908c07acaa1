import SessionLayer.Text.Digits

/-!
# Templates

A template is a text with numbered places: a percent sign and all the digits
behind it. `pieces` cuts a template into places and ordinary characters, and
`fill` puts arguments into the places. A place whose number has no argument
stays as it is written.
-/

namespace SessionLayer.Template

/-- A part of a template. -/
inductive Piece
  /-- A character outside of all places. -/
  | plain (c : Char)
  /-- A percent sign with the digits behind it. -/
  | place (digits : List Char)
  deriving DecidableEq

/-- The characters of a piece as it is written. -/
def Piece.source : Piece → List Char
  | .plain c => [c]
  | .place digits => '%' :: digits

/-- Takes the digits off the front of a list of pieces. -/
def leadingDigits : List Piece → List Char × List Piece
  | .plain c :: rest =>
    if c.isDigit then
      let (digits, others) := leadingDigits rest
      (c :: digits, others)
    else ([], .plain c :: rest)
  | pieces => ([], pieces)

/-- Puts a character in front of the pieces of the text behind it. -/
def consPiece (c : Char) (pieces : List Piece) : List Piece :=
  if c = '%' then
    let (digits, others) := leadingDigits pieces
    .place digits :: others
  else .plain c :: pieces

/-- The pieces of a template. -/
def pieces (template : List Char) : List Piece := template.foldr consPiece []

/-- The argument for a place: places are numbered from one. -/
def argument? (args : List String) (digits : List Char) : Option String := do
  let number ← Digits.number? 10 digits
  if number = 0 then none else args[number - 1]?

/-- A piece with its argument put in. -/
def Piece.fill (args : List String) : Piece → List Char
  | .plain c => [c]
  | .place digits =>
    match argument? args digits with
    | some arg => arg.toList
    | none => '%' :: digits

/-- A template with its arguments put in. -/
def fill (args : List String) (template : String) : String :=
  String.ofList ((pieces template.toList).flatMap (Piece.fill args))

end SessionLayer.Template
