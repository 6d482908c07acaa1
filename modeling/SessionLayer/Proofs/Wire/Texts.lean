import Mathlib.Tactic.SplitIfs
import SessionLayer.Proofs.Wire.Numbers

/-!
# Packed numbers and texts on the wire

A packed number is read back as it was written, and so is a text whose bytes can be
counted in thirty-two bits. `Wire.packedSize` and `Wire.textSize` say how many bytes that
takes, without writing them.
-/

namespace SessionLayer

/-! ## Packed numbers -/

/-- Groups of seven bits are read back, as long as the number is no larger than so many
groups can hold. -/
theorem Reader.sevenBitGroups_append {more value : Nat} (fits : value < 128 ^ (more + 1))
    (rest : Bytes) :
    Reader.sevenBitGroups (more + 1) (Wire.sevenBitGroups more value ++ rest) =
      .ok value rest := by
  have last {groups value : Nat} (small : value < 128) :
      Reader.sevenBitGroups (groups + 1) (UInt8.ofNat value :: rest) = .ok value rest := by
    have byte : (UInt8.ofNat value).toNat = value := by
      rw [UInt8.toNat_ofNat']
      omega
    simp only [Reader.sevenBitGroups, Reader.bind_eq_ok, Reader.u8_eq_ok]
    exact ⟨_, _, rfl, by rw [byte, if_pos small]; rfl⟩
  induction more generalizing value with
  | zero => exact last (by simpa using fits)
  | succ more ih =>
    rw [Wire.sevenBitGroups]
    split
    · rename_i small
      exact last small
    · rename_i large
      have high : value / 128 < 128 ^ (more + 1) := by
        rw [Nat.pow_succ] at fits
        omega
      have byte : (UInt8.ofNat (value % 128 + 128)).toNat = value % 128 + 128 := by
        rw [UInt8.toNat_ofNat']
        omega
      rw [Reader.sevenBitGroups, Reader.bind_eq_ok]
      refine ⟨_, _, rfl, ?_⟩
      rw [byte, if_neg (by omega), Reader.bind_eq_ok]
      refine ⟨_, _, ih high, Reader.pure_eq_ok.mpr ⟨?_, rfl⟩⟩
      omega

theorem Reader.packed_append (value : UInt32) (rest : Bytes) :
    Reader.packed (Wire.packed value ++ rest) = .ok value rest := by
  have fits : value.toNat < 128 ^ (4 + 1) := Nat.lt_of_lt_of_le value.toNat_lt (by decide)
  rw [Reader.packed, Reader.bind_eq_ok]
  exact ⟨_, _, Reader.sevenBitGroups_append fits rest,
    Reader.pure_eq_ok.mpr ⟨UInt32.ofNat_toNat, rfl⟩⟩

/-- How many bytes a packed number takes. -/
def Wire.packedSize (value : Nat) : Nat :=
  if value < 2 ^ 7 then 1
  else if value < 2 ^ 14 then 2
  else if value < 2 ^ 21 then 3
  else if value < 2 ^ 28 then 4
  else 5

theorem Wire.packedSize_pos (value : Nat) : 0 < Wire.packedSize value := by
  unfold Wire.packedSize
  split_ifs <;> omega

theorem Wire.length_sevenBitGroups_succ (more value : Nat) :
    (Wire.sevenBitGroups (more + 1) value).length =
      if value < 128 then 1 else (Wire.sevenBitGroups more (value / 128)).length + 1 := by
  rw [Wire.sevenBitGroups]
  split <;> rfl

theorem Wire.length_packed (value : UInt32) :
    (Wire.packed value).length = Wire.packedSize value.toNat := by
  have last (value : Nat) : (Wire.sevenBitGroups 0 value).length = 1 := rfl
  simp only [Wire.packed, Wire.length_sevenBitGroups_succ, last, Wire.packedSize,
    Nat.div_div_eq_div_mul]
  split_ifs <;> omega

/-! ## Texts -/

theorem Utf8.length_encode (text : String) : (Utf8.encode text).length = text.utf8ByteSize := by
  simp [Utf8.encode]

/-- The length of a short text has room in its prefix. -/
theorem Utf8.toNat_length_encode {text : String} (short : text.utf8ByteSize < 2 ^ 32) :
    (UInt32.ofNat (Utf8.encode text).length).toNat = text.utf8ByteSize := by
  rw [Utf8.length_encode, UInt32.toNat_ofNat', Nat.mod_eq_of_lt short]

theorem Reader.text_append {text : String} (short : text.utf8ByteSize < 2 ^ 32) (rest : Bytes) :
    Reader.text (Wire.text text ++ rest) = .ok text rest := by
  have size := (Utf8.length_encode text).trans (Utf8.toNat_length_encode short).symm
  rw [Wire.text, List.append_assoc, Reader.text, Reader.bind_eq_ok]
  refine ⟨_, _, Reader.packed_append _ _, ?_⟩
  rw [Reader.bind_eq_ok]
  refine ⟨_, _, Reader.bytes_append size rest, ?_⟩
  rw [Utf8.decode?_encode]
  rfl

/-- How many bytes a text takes with its length before it. -/
def Wire.textSize (text : String) : Nat :=
  Wire.packedSize text.utf8ByteSize + text.utf8ByteSize

theorem Wire.length_text {text : String} (short : text.utf8ByteSize < 2 ^ 32) :
    (Wire.text text).length = Wire.textSize text := by
  rw [Wire.text, List.length_append, Wire.length_packed, Utf8.toNat_length_encode short,
    Utf8.length_encode, Wire.textSize]

theorem Wire.text_ne_nil {text : String} (short : text.utf8ByteSize < 2 ^ 32) :
    Wire.text text ≠ [] := by
  rw [← List.length_pos_iff, Wire.length_text short]
  exact Nat.add_pos_left (Wire.packedSize_pos _) _

end SessionLayer
