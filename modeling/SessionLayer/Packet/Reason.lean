/-!
# Reasons for ending a session

The client shows a text of its own for most reasons; `custom` makes it show the
text that comes with the reason.
-/

namespace SessionLayer

/-- Why a session is ended, as told to the other side. -/
inductive DisconnectReason
  | none
  | gameFull
  | gameStarted
  | gameNotFound
  | incorrectVersion
  | banned
  | kicked
  | custom
  | invalidName
  | hacking
  | notAuthorized
  | destroy
  | error
  | incorrectGame
  | serverRequest
  | serverFull
  /-- A byte without a name. -/
  | unknown (byte : UInt8)
  deriving DecidableEq

namespace DisconnectReason

/-- Every reason with a name. -/
def known : List DisconnectReason :=
  [.none, .gameFull, .gameStarted, .gameNotFound, .incorrectVersion, .banned, .kicked,
   .custom, .invalidName, .hacking, .notAuthorized, .destroy, .error, .incorrectGame,
   .serverRequest, .serverFull]

/-- The reason of a byte. -/
def ofByte (byte : UInt8) : DisconnectReason :=
  match byte with
  | 0 => .none
  | 1 => .gameFull
  | 2 => .gameStarted
  | 3 => .gameNotFound
  | 5 => .incorrectVersion
  | 6 => .banned
  | 7 => .kicked
  | 8 => .custom
  | 9 => .invalidName
  | 10 => .hacking
  | 11 => .notAuthorized
  | 16 => .destroy
  | 17 => .error
  | 18 => .incorrectGame
  | 19 => .serverRequest
  | 20 => .serverFull
  | _ => .unknown byte

/-- The byte of a reason. -/
def byte : DisconnectReason → UInt8
  | .none => 0
  | .gameFull => 1
  | .gameStarted => 2
  | .gameNotFound => 3
  | .incorrectVersion => 5
  | .banned => 6
  | .kicked => 7
  | .custom => 8
  | .invalidName => 9
  | .hacking => 10
  | .notAuthorized => 11
  | .destroy => 16
  | .error => 17
  | .incorrectGame => 18
  | .serverRequest => 19
  | .serverFull => 20
  | .unknown byte => byte

/-- The name of a reason, the same for all without one of their own. -/
def name : DisconnectReason → String
  | .none => "None"
  | .gameFull => "GameFull"
  | .gameStarted => "GameStarted"
  | .gameNotFound => "GameNotFound"
  | .incorrectVersion => "IncorrectVersion"
  | .banned => "Banned"
  | .kicked => "Kicked"
  | .custom => "Custom"
  | .invalidName => "InvalidName"
  | .hacking => "Hacking"
  | .notAuthorized => "NotAuthorized"
  | .destroy => "Destroy"
  | .error => "Error"
  | .incorrectGame => "IncorrectGame"
  | .serverRequest => "ServerRequest"
  | .serverFull => "ServerFull"
  | .unknown _ => "Unknown"

/-- The name, and the number behind it where there is no name. -/
def text : DisconnectReason → String
  | .unknown byte => "Unknown(" ++ toString byte.toNat ++ ")"
  | named => named.name

/-- The reason of this name. -/
def ofName? (name : String) : Option DisconnectReason :=
  known.find? fun candidate => candidate.name == name

/-- A reason is canonical when reading its byte gives it back: a number with a
name is not carried without that name. -/
def Canonical (value : DisconnectReason) : Prop := ofByte value.byte = value

instance (value : DisconnectReason) : Decidable value.Canonical :=
  inferInstanceAs (Decidable (_ = _))

@[simp] theorem byte_ofByte (byte : UInt8) : (ofByte byte).byte = byte := by
  unfold ofByte
  split <;> rfl

theorem canonical_ofByte (byte : UInt8) : (ofByte byte).Canonical := by
  simp [Canonical]

end DisconnectReason

end SessionLayer
