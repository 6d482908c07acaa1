import SessionLayer.Text.Digits

/-!
# The words of a JSON document

A document is cut into tokens: marks, names, numbers and quoted texts, with
blanks between them. A number keeps its digits, since its reader may want to
know how it is written. A quoted text may hold half of a surrogate pair; it is
then a token like any other, but spells no text.
-/

namespace SessionLayer.Json

/-- A word of a document. -/
inductive Token
  | openBrace
  | closeBrace
  | openBracket
  | closeBracket
  | comma
  | colon
  | null
  | bool (value : Bool)
  /-- A number as it is written. -/
  | number (literal : List Char)
  /-- A quoted text, `none` if its escapes spell no text. -/
  | quoted (text : Option String)
  deriving DecidableEq

/-- The characters that may stand between tokens. -/
def isBlank (c : Char) : Bool := c = ' ' || c = '\n' || c = '\t' || c = '\r'

/-! ## Quoted texts -/

/-- What stands inside quotes: a character, or the number of an escape. -/
inductive Unit16
  | plain (c : Char)
  | escape (number : Nat)
  deriving DecidableEq

/-- The number that four hexadecimal digits write. -/
def hexNumber? (a b c d : Char) : Option Nat := Digits.number? 16 [a, b, c, d]

/-- The character that a letter behind a backslash stands for. -/
def shortEscape? : Char → Option Char
  | '"' => some '"'
  | '\\' => some '\\'
  | '/' => some '/'
  | 'b' => some '\x08'
  | 'f' => some '\x0c'
  | 'n' => some '\n'
  | 'r' => some '\r'
  | 't' => some '\t'
  | _ => none

/-- Reads up to the closing quote; `seen` holds what was read, the latest first.
Control characters must be escaped. -/
def scanQuoted (seen : List Unit16) : List Char → Option (List Unit16 × List Char)
  | '"' :: rest => some (seen.reverse, rest)
  | '\\' :: 'u' :: a :: b :: c :: d :: rest =>
    match hexNumber? a b c d with
    | some number => scanQuoted (.escape number :: seen) rest
    | none => none
  | '\\' :: c :: rest =>
    match shortEscape? c with
    | some plain => scanQuoted (.plain plain :: seen) rest
    | none => none
  | c :: rest => if c.toNat < 32 || c = '\\' then none else scanQuoted (.plain c :: seen) rest
  | [] => none

theorem length_of_scanQuoted {seen units : List Unit16} {input rest : List Char}
    (h : scanQuoted seen input = some (units, rest)) : rest.length < input.length := by
  fun_induction scanQuoted seen input <;> simp_all <;> omega

/-- The first half of a surrogate pair. -/
def isLeading (number : Nat) : Bool := 0xD800 ≤ number && number < 0xDC00

/-- The second half of a surrogate pair. -/
def isTrailing (number : Nat) : Bool := 0xDC00 ≤ number && number < 0xE000

/-- The characters that the inside of quotes spells. The two halves of a
surrogate pair must follow each other. -/
def spell : List Unit16 → Option (List Char)
  | [] => some []
  | .plain c :: rest => (spell rest).map (c :: ·)
  | .escape number :: .escape second :: rest =>
    if isLeading number then
      if isTrailing second then
        (spell rest).map
          (Char.ofNat (0x10000 + (number - 0xD800) * 0x400 + (second - 0xDC00)) :: ·)
      else none
    else if isTrailing number then none
    else (spell (.escape second :: rest)).map (Char.ofNat number :: ·)
  | .escape number :: rest =>
    if isLeading number || isTrailing number then none
    else (spell rest).map (Char.ofNat number :: ·)

/-! ## Numbers -/

/-- Drops digits off the front, of which there must be one. -/
def dropDigits? (input : List Char) : Option (List Char) :=
  match input with
  | [] => none
  | c :: rest => if c.isDigit then some (rest.dropWhile Char.isDigit) else none

/-- Drops the whole part of a number: a zero, or digits that start with none. -/
def dropWhole? : List Char → Option (List Char)
  | '0' :: rest => some rest
  | input => dropDigits? input

/-- Drops a point with the digits behind it, if one is there. -/
def dropFraction? : List Char → Option (List Char)
  | '.' :: rest => dropDigits? rest
  | input => some input

/-- Drops an exponent, if one is there. -/
def dropExponent? : List Char → Option (List Char)
  | c :: rest =>
    if c = 'e' || c = 'E' then
      match rest with
      | '+' :: digits => dropDigits? digits
      | '-' :: digits => dropDigits? digits
      | digits => dropDigits? digits
    else some (c :: rest)
  | [] => some []

/-- Whether characters are a number: a sign, a whole part without needless
zeros, a fraction, an exponent. -/
def isNumber (literal : List Char) : Bool :=
  let unsigned := match literal with
    | '-' :: rest => rest
    | _ => literal
  ((dropWhole? unsigned).bind dropFraction?).bind dropExponent? == some []

/-- The characters that numbers are made of. -/
def isNumeric (c : Char) : Bool := c.isDigit || c = '-' || c = '+' || c = '.' || c = 'e' || c = 'E'

/-! ## Tokens -/

/-- The marks, each a token of one character. -/
def mark? : Char → Option Token
  | '{' => some .openBrace
  | '}' => some .closeBrace
  | '[' => some .openBracket
  | ']' => some .closeBracket
  | ',' => some .comma
  | ':' => some .colon
  | _ => none

/-- The names, each a token of several letters. -/
def name? (letters : List Char) : Option Token :=
  if letters = ['n', 'u', 'l', 'l'] then some .null
  else if letters = ['t', 'r', 'u', 'e'] then some (.bool true)
  else if letters = ['f', 'a', 'l', 's', 'e'] then some (.bool false)
  else none

/-- The token that starts with a character which is not blank, and what follows
it. -/
def nextToken? (c : Char) (rest : List Char) : Option (Token × List Char) :=
  match mark? c with
  | some token => some (token, rest)
  | none =>
    if c = '"' then
      (scanQuoted [] rest).map fun (units, others) =>
        (.quoted ((spell units).map String.ofList), others)
    else if c.isAlpha then
      (name? (c :: rest.takeWhile Char.isAlpha)).map fun token =>
        (token, rest.dropWhile Char.isAlpha)
    else if isNumber (c :: rest.takeWhile isNumeric) then
      some (.number (c :: rest.takeWhile isNumeric), rest.dropWhile isNumeric)
    else none

theorem length_dropWhile_le (test : Char → Bool) (input : List Char) :
    (input.dropWhile test).length ≤ input.length := (List.dropWhile_sublist test).length_le

theorem length_of_nextToken? {c : Char} {rest others : List Char} {token : Token}
    (h : nextToken? c rest = some (token, others)) : others.length ≤ rest.length := by
  simp only [nextToken?] at h
  split at h
  · cases h; exact Nat.le_refl _
  · split at h
    · simp only [Option.map_eq_some_iff, Prod.exists, Prod.mk.injEq] at h
      obtain ⟨_, _, scanned, _, rfl⟩ := h
      exact Nat.le_of_lt (length_of_scanQuoted scanned)
    · split at h
      · simp only [Option.map_eq_some_iff, Prod.mk.injEq] at h
        obtain ⟨_, _, _, rfl⟩ := h
        exact length_dropWhile_le _ _
      · split at h
        · cases h; exact length_dropWhile_le _ _
        · cases h

/-- The tokens of a document; `seen` holds those read so far, the latest
first. -/
def tokensFrom (seen : List Token) (input : List Char) : Option (List Token) :=
  match input with
  | [] => some seen.reverse
  | c :: rest =>
    if isBlank c then tokensFrom seen rest
    else
      match _h : nextToken? c rest with
      | some (token, others) => tokensFrom (token :: seen) others
      | none => none
  termination_by input.length
  decreasing_by
    · simp
    · exact Nat.lt_succ_of_le (length_of_nextToken? _h)

/-- The tokens of a document, if it is made of tokens. -/
def tokens (document : String) : Option (List Token) := tokensFrom [] document.toList

end SessionLayer.Json
