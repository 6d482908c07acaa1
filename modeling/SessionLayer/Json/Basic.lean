import SessionLayer.Json.Token

/-!
# JSON documents

A document is built from its tokens in one pass: `Builder` holds the containers
that are open and what may come next, and `Builder.step` takes one token. The
members of an object are kept as they stand, repeated keys included, because
their reader decides what a repeated key means.
-/

namespace SessionLayer

/-- A JSON value. -/
inductive Json
  | null
  | bool (value : Bool)
  /-- A number as it is written. -/
  | number (literal : List Char)
  /-- A text, `none` if its escapes spell none. -/
  | text (value : Option String)
  | array (items : List Json)
  /-- The members in the order in which they stand. -/
  | object (members : List (Option String × Json))

namespace Json

/-- A container that is not closed yet, its contents so far with the latest
first. -/
inductive Frame
  | array (items : List Json)
  /-- An object, with the key whose value comes next. -/
  | object (members : List (Option String × Json)) (key : Option String)

/-- What may come next. -/
inductive Expected
  /-- A value, or the end of the array if `closing`. -/
  | value (closing : Bool)
  /-- A key, or the end of the object if `closing`. -/
  | key (closing : Bool)
  /-- The colon behind a key. -/
  | colon
  /-- A comma, or the end of the container. -/
  | comma
  /-- Nothing: the document is complete. -/
  | nothing (document : Json)

/-- A document that is being built. -/
structure Builder where
  frames : List Frame
  expected : Expected

namespace Builder

/-- Before the first token. -/
def start : Builder := ⟨[], .value false⟩

/-- Puts a complete value where it belongs. -/
def complete (value : Json) : List Frame → Builder
  | [] => ⟨[], .nothing value⟩
  | .array items :: frames => ⟨.array (value :: items) :: frames, .comma⟩
  | .object members key :: frames => ⟨.object ((key, value) :: members) none :: frames, .comma⟩

/-- Closes an array. -/
def closeArray : List Frame → Option Builder
  | .array items :: frames => some (complete (.array items.reverse) frames)
  | _ => none

/-- Closes an object. -/
def closeObject : List Frame → Option Builder
  | .object members _ :: frames => some (complete (.object members.reverse) frames)
  | _ => none

/-- Takes a token that starts or is a value. -/
def takeValue (frames : List Frame) : Token → Option Builder
  | .null => some (complete .null frames)
  | .bool value => some (complete (.bool value) frames)
  | .number literal => some (complete (.number literal) frames)
  | .quoted spelled => some (complete (.text spelled) frames)
  | .openBracket => some ⟨.array [] :: frames, .value true⟩
  | .openBrace => some ⟨.object [] none :: frames, .key true⟩
  | _ => none

/-- Takes a comma: in an array a value follows, in an object a key. -/
def takeComma : List Frame → Option Builder
  | .array items :: frames => some ⟨.array items :: frames, .value false⟩
  | .object members key :: frames => some ⟨.object members key :: frames, .key false⟩
  | [] => none

/-- Takes one token. -/
def step (builder : Builder) (token : Token) : Option Builder :=
  match builder.expected, token with
  | .value true, .closeBracket => closeArray builder.frames
  | .value _, token => takeValue builder.frames token
  | .key true, .closeBrace => closeObject builder.frames
  | .key _, .quoted key =>
    match builder.frames with
    | .object members _ :: frames => some ⟨.object members key :: frames, .colon⟩
    | _ => none
  | .colon, .colon => some ⟨builder.frames, .value false⟩
  | .comma, .comma => takeComma builder.frames
  | .comma, .closeBracket => closeArray builder.frames
  | .comma, .closeBrace => closeObject builder.frames
  | _, _ => none

end Builder

/-- The value that a document writes, if it writes one. -/
def parse (document : String) : Option Json := do
  let tokens ← tokens document
  let builder ← tokens.foldlM Builder.step .start
  match builder.expected with
  | .nothing value => some value
  | _ => none

/-- The first member of an object with this key. -/
def member? (key : String) : Json → Option Json
  | .object members => members.lookup (some key)
  | _ => none

end Json

end SessionLayer
