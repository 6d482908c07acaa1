import Mathlib.Algebra.Group.Nat.Defs
import SessionLayer.Wire.Field

/-!
# Numbers on the wire

A number of a fixed size is read back as it was written, and what follows it is left
alone.
-/

namespace SessionLayer

theorem Wire.length_littleEndian (size value : Nat) :
    (Wire.littleEndian size value).length = size := by
  induction size generalizing value with
  | zero => rfl
  | succ size ih => rw [Wire.littleEndian, List.length_cons, ih]

/-- So many bytes hold a number below the same power of 256. -/
theorem Reader.littleEndian_littleEndian {size value : Nat} (fits : value < 256 ^ size) :
    Reader.littleEndian (Wire.littleEndian size value) = value := by
  induction size generalizing value with
  | zero =>
    have zero : value = 0 := by simpa using fits
    rw [zero]
    rfl
  | succ size ih =>
    have rest : value / 256 < 256 ^ size := by
      rw [Nat.pow_succ] at fits
      omega
    rw [Wire.littleEndian, Reader.littleEndian, ih rest, UInt8.toNat_ofNat']
    omega

theorem Reader.bytes_append {size : Nat} {front : Bytes} (sized : front.length = size)
    (rest : Bytes) : Reader.bytes size (front ++ rest) = .ok front rest := by
  rw [Reader.bytes_eq_ok]
  refine ⟨?_, ?_, ?_⟩
  · rw [List.length_append]
    omega
  · rw [← sized, List.take_left]
  · rw [← sized, List.drop_left]

@[simp] theorem Wire.length_u16le (value : UInt16) : (Wire.u16le value).length = 2 :=
  Wire.length_littleEndian ..

@[simp] theorem Wire.length_u16be (value : UInt16) : (Wire.u16be value).length = 2 := by
  rw [Wire.u16be, List.length_reverse, Wire.length_littleEndian]

theorem Reader.u16le_append (value : UInt16) (rest : Bytes) :
    Reader.u16le (Wire.u16le value ++ rest) = .ok value rest := by
  simp only [Reader.u16le, Reader.bind_eq_ok, Reader.pure_eq_ok]
  refine ⟨_, _, Reader.bytes_append (Wire.length_u16le value) rest, ?_, rfl⟩
  rw [Wire.u16le, Reader.littleEndian_littleEndian value.toNat_lt, UInt16.ofNat_toNat]

theorem Reader.u16be_append (value : UInt16) (rest : Bytes) :
    Reader.u16be (Wire.u16be value ++ rest) = .ok value rest := by
  simp only [Reader.u16be, Reader.bind_eq_ok, Reader.pure_eq_ok]
  refine ⟨_, _, Reader.bytes_append (Wire.length_u16be value) rest, ?_, rfl⟩
  rw [Wire.u16be, Reader.bigEndian, List.reverse_reverse,
    Reader.littleEndian_littleEndian value.toNat_lt, UInt16.ofNat_toNat]

@[simp] theorem Wire.length_u32le (value : UInt32) : (Wire.u32le value).length = 4 :=
  Wire.length_littleEndian ..

theorem Reader.u32le_append (value : UInt32) (rest : Bytes) :
    Reader.u32le (Wire.u32le value ++ rest) = .ok value rest := by
  simp only [Reader.u32le, Reader.bind_eq_ok, Reader.pure_eq_ok]
  refine ⟨_, _, Reader.bytes_append (Wire.length_u32le value) rest, ?_, rfl⟩
  rw [Wire.u32le, Reader.littleEndian_littleEndian value.toNat_lt, UInt32.ofNat_toNat]

theorem Reader.i32le_append (value : Int32) (rest : Bytes) :
    Reader.i32le (Wire.i32le value ++ rest) = .ok value rest := by
  simp only [Reader.i32le, Reader.bind_eq_ok, Reader.pure_eq_ok]
  exact ⟨_, _, Reader.u32le_append value.toUInt32 rest, Int32.toInt32_toUInt32 value, rfl⟩

end SessionLayer
