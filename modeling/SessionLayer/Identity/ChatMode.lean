/-!
# Ways of chatting

A client either writes freely or picks from a wheel of phrases.
-/

namespace SessionLayer

/-- How a client writes to other players. -/
inductive ChatMode
  | freeChat
  | quickChat
  /-- A byte without a name. -/
  | other (byte : UInt8)
  deriving DecidableEq

namespace ChatMode

instance : Inhabited ChatMode := ⟨.freeChat⟩

/-- Every way of chatting with a name. -/
def known : List ChatMode :=
  [.freeChat, .quickChat]

/-- The way of chatting of a byte. -/
def ofByte (byte : UInt8) : ChatMode :=
  match byte with
  | 1 => .freeChat
  | 2 => .quickChat
  | _ => .other byte

/-- The byte of a way of chatting. -/
def byte : ChatMode → UInt8
  | .freeChat => 1
  | .quickChat => 2
  | .other byte => byte

/-- The name of a way of chatting, the same for all without one of their own. -/
def name : ChatMode → String
  | .freeChat => "FreeChat"
  | .quickChat => "QuickChat"
  | .other _ => "Other"

/-- The name, and the number behind it where there is no name. -/
def text : ChatMode → String
  | .other byte => "Other(" ++ toString byte.toNat ++ ")"
  | named => named.name

/-- The way of chatting of this name. -/
def ofName? (name : String) : Option ChatMode := known.find? fun candidate => candidate.name == name

/-- A way of chatting is canonical when reading its byte gives it back: a number with a
name is not carried without that name. -/
def Canonical (value : ChatMode) : Prop := ofByte value.byte = value

instance (value : ChatMode) : Decidable value.Canonical := inferInstanceAs (Decidable (_ = _))

@[simp] theorem byte_ofByte (byte : UInt8) : (ofByte byte).byte = byte := by
  unfold ofByte
  split <;> rfl

theorem canonical_ofByte (byte : UInt8) : (ofByte byte).Canonical := by
  simp [Canonical]

end ChatMode

end SessionLayer
