import SessionLayer.Wire.Reader

/-!
# Fields and their bytes

Each primitive value of the wire format has one way to be written. `Field` names
a value together with its format, `FieldType` the format alone; `Field.encode`
writes and `FieldType.read` reads.
-/

namespace SessionLayer

namespace Wire

/-- The low `size` bytes of a number, the least significant one first. -/
def littleEndian : Nat → Nat → Bytes
  | 0, _ => []
  | size + 1, value => UInt8.ofNat value :: littleEndian size (value / 256)

/-- Sixteen bits, the high byte first. -/
def u16be (value : UInt16) : Bytes := (littleEndian 2 value.toNat).reverse

/-- Sixteen bits, the low byte first. -/
def u16le (value : UInt16) : Bytes := littleEndian 2 value.toNat

/-- Thirty-two bits, the low byte first. -/
def u32le (value : UInt32) : Bytes := littleEndian 4 value.toNat

/-- Thirty-two bits in two's complement, the low byte first. -/
def i32le (value : Int32) : Bytes := u32le value.toUInt32

/-- Groups of seven bits, the lowest first, with the high bit on every byte but
the last. `more` bounds the groups after the first. -/
def sevenBitGroups : Nat → Nat → Bytes
  | 0, value => [UInt8.ofNat value]
  | more + 1, value =>
    if value < 128 then [UInt8.ofNat value]
    else UInt8.ofNat (value % 128 + 128) :: sevenBitGroups more (value / 128)

/-- A packed integer: thirty-two bits never need more than five groups. -/
def packed (value : UInt32) : Bytes := sevenBitGroups 4 value.toNat

/-- A text: the packed number of its bytes, then the bytes. -/
def text (value : String) : Bytes :=
  let body := Utf8.encode value
  packed (UInt32.ofNat body.length) ++ body

/-- Writes `value` over the two bytes from `position` on, the low byte first;
`none` if the bytes do not reach that far. -/
def patchU16le (position : Nat) (value : UInt16) (bytes : Bytes) : Option Bytes :=
  if position + 2 ≤ bytes.length then
    some (bytes.take position ++ u16le value ++ bytes.drop (position + 2))
  else none

end Wire

/-- A value together with the way it is written. -/
inductive Field
  | u8 (value : UInt8)
  | u16be (value : UInt16)
  | u16le (value : UInt16)
  | u32le (value : UInt32)
  | i32le (value : Int32)
  | packed (value : UInt32)
  | text (value : String)
  | raw (value : Bytes)

/-- The way a value is written. Raw bytes carry no length of their own. -/
inductive FieldType
  | u8
  | u16be
  | u16le
  | u32le
  | i32le
  | packed
  | text
  | raw (size : Nat)

/-- The way this value is written. -/
def Field.type : Field → FieldType
  | .u8 _ => .u8
  | .u16be _ => .u16be
  | .u16le _ => .u16le
  | .u32le _ => .u32le
  | .i32le _ => .i32le
  | .packed _ => .packed
  | .text _ => .text
  | .raw value => .raw value.length

/-- The bytes of a field. -/
def Field.encode : Field → Bytes
  | .u8 value => [value]
  | .u16be value => Wire.u16be value
  | .u16le value => Wire.u16le value
  | .u32le value => Wire.u32le value
  | .i32le value => Wire.i32le value
  | .packed value => Wire.packed value
  | .text value => Wire.text value
  | .raw value => value

/-- Reads a field of the given type. -/
def FieldType.read : FieldType → Reader Field
  | .u8 => Field.u8 <$> Reader.u8
  | .u16be => Field.u16be <$> Reader.u16be
  | .u16le => Field.u16le <$> Reader.u16le
  | .u32le => Field.u32le <$> Reader.u32le
  | .i32le => Field.i32le <$> Reader.i32le
  | .packed => Field.packed <$> Reader.packed
  | .text => Field.text <$> Reader.text
  | .raw size => Field.raw <$> Reader.bytes size

end SessionLayer
