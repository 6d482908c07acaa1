/-!
# Platforms

The tag on the last field of a client's greeting says which platform or shop
the client was started from.
-/

namespace SessionLayer

/-- The platform a client was started from. -/
inductive Platform
  | unknown
  | epicPc
  | steamPc
  | mac
  | win10
  | itch
  | iPhone
  | android
  | switch
  | xbox
  | playstation
  /-- A tag without a name. -/
  | other (tag : UInt8)
  deriving DecidableEq

namespace Platform

instance : Inhabited Platform := ⟨.unknown⟩

/-- Every platform with a name. -/
def known : List Platform :=
  [.unknown, .epicPc, .steamPc, .mac, .win10, .itch, .iPhone, .android, .switch, .xbox,
   .playstation]

/-- The platform of a tag. -/
def ofTag (tag : UInt8) : Platform :=
  match tag with
  | 0 => .unknown
  | 1 => .epicPc
  | 2 => .steamPc
  | 3 => .mac
  | 4 => .win10
  | 5 => .itch
  | 6 => .iPhone
  | 7 => .android
  | 8 => .switch
  | 9 => .xbox
  | 10 => .playstation
  | _ => .other tag

/-- The tag of a platform. -/
def tag : Platform → UInt8
  | .unknown => 0
  | .epicPc => 1
  | .steamPc => 2
  | .mac => 3
  | .win10 => 4
  | .itch => 5
  | .iPhone => 6
  | .android => 7
  | .switch => 8
  | .xbox => 9
  | .playstation => 10
  | .other tag => tag

/-- The name of a platform, the same for all without one of their own. -/
def name : Platform → String
  | .unknown => "Unknown"
  | .epicPc => "EpicPc"
  | .steamPc => "SteamPc"
  | .mac => "Mac"
  | .win10 => "Win10"
  | .itch => "Itch"
  | .iPhone => "IPhone"
  | .android => "Android"
  | .switch => "Switch"
  | .xbox => "Xbox"
  | .playstation => "Playstation"
  | .other _ => "Other"

/-- The name, and the number behind it where there is no name. -/
def text : Platform → String
  | .other tag => "Other(" ++ toString tag.toNat ++ ")"
  | named => named.name

/-- The platform of this name. -/
def ofName? (name : String) : Option Platform := known.find? fun candidate => candidate.name == name

/-- A platform is canonical when reading its tag gives it back: a number with a
name is not carried without that name. -/
def Canonical (value : Platform) : Prop := ofTag value.tag = value

instance (value : Platform) : Decidable value.Canonical := inferInstanceAs (Decidable (_ = _))

@[simp] theorem tag_ofTag (tag : UInt8) : (ofTag tag).tag = tag := by
  unfold ofTag
  split <;> rfl

theorem canonical_ofTag (tag : UInt8) : (ofTag tag).Canonical := by
  simp [Canonical]

end Platform

end SessionLayer
