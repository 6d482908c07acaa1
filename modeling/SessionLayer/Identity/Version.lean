import SessionLayer.Time

/-!
# Builds of the client program

A build is dated and numbered, and travels as one signed number in a mixed
radix: twenty-five thousand to the year, eighteen hundred to the month, fifty to
the day. Every packed number has a build (`ofPacked`); a build has a packed
number as long as its weight fits thirty-two bits (`Packable`).
-/

namespace SessionLayer

/-- The build of a client program. -/
structure ClientVersion where
  year : UInt32
  month : UInt32
  day : UInt32
  build : UInt32
  deriving DecidableEq, Inhabited

namespace ClientVersion

/-- The build with this packed number. A negative number stands for zero. -/
def ofPacked (packed : Int32) : ClientVersion :=
  let value := packed.toInt.toNat
  { year := UInt32.ofNat (value / 25000)
    month := UInt32.ofNat (value % 25000 / 1800)
    day := UInt32.ofNat (value % 25000 % 1800 / 50)
    build := UInt32.ofNat (value % 25000 % 1800 % 50) }

/-- The weighted sum of the four parts, without a bound. -/
def weight (version : ClientVersion) : Nat :=
  version.year.toNat * 25000 + version.month.toNat * 1800 + version.day.toNat * 50
    + version.build.toNat

/-- A build can be packed when its weight fits thirty-two bits. -/
def Packable (version : ClientVersion) : Prop := version.weight < UInt32.size

instance (version : ClientVersion) : Decidable version.Packable :=
  inferInstanceAs (Decidable (_ < _))

/-- The packed number of a build that can be packed: the bits of its weight, read
as a signed number. -/
def toPacked (version : ClientVersion) : Int32 := (UInt32.ofNat version.weight).toInt32

/-- Packs a build. -/
def pack (version : ClientVersion) : Except Halt Int32 :=
  if version.Packable then .ok version.toPacked else .error .packingOverflow

/-- The parts joined by points, the build number only where it is not zero. -/
def text (version : ClientVersion) : String :=
  let date := toString version.year.toNat ++ "." ++ toString version.month.toNat ++ "."
    ++ toString version.day.toNat
  if version.build = 0 then date else date ++ "." ++ toString version.build.toNat

/-- A build is canonical when packing and unpacking gives it back. -/
def Canonical (version : ClientVersion) : Prop := ofPacked version.toPacked = version

instance (version : ClientVersion) : Decidable version.Canonical :=
  inferInstanceAs (Decidable (_ = _))

end ClientVersion

end SessionLayer
