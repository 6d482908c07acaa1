import SessionLayer.Json.Basic

/-!
# Documents without blanks

A value is written with nothing between its words, the members of an object in
the order in which they stand. In a text only the characters are escaped that
have to be.
-/

namespace SessionLayer.Json

/-- A text with a character of a quoted text behind it. -/
def pushQuoted (before : String) (c : Char) : String :=
  if c = '"' || c = '\\' then (before.push '\\').push c
  else if c.toNat < 32 then
    ((before ++ "\\u00").push (Nat.digitChar (c.toNat / 16))).push (Nat.digitChar (c.toNat % 16))
  else before.push c

/-- A text with a quoted text behind it. -/
def appendQuoted (before spelled : String) : String :=
  (spelled.toList.foldl pushQuoted (before.push '"')).push '"'

mutual

/-- A text with a value behind it. A text that its escapes do not spell is left
empty. -/
def append (before : String) : Json → String
  | .null => before ++ "null"
  | .bool value => before ++ if value then "true" else "false"
  | .number literal => before ++ String.ofList literal
  | .text spelled => appendQuoted before (spelled.getD "")
  | .array items => (appendItems (before.push '[') items).push ']'
  | .object members => (appendMembers (before.push '\x7b') members).push '\x7d'

/-- A text with the values of an array behind it. -/
def appendItems (before : String) : List Json → String
  | [] => before
  | [item] => append before item
  | item :: rest => appendItems ((append before item).push ',') rest

/-- A text with the members of an object behind it. -/
def appendMembers (before : String) : List (Option String × Json) → String
  | [] => before
  | [(key, value)] => append ((appendQuoted before (key.getD "")).push ':') value
  | (key, value) :: rest =>
    appendMembers ((append ((appendQuoted before (key.getD "")).push ':') value).push ',') rest

end

/-- The document that writes a value. -/
def compact (value : Json) : String := append "" value

end SessionLayer.Json
