import SessionLayer.Proofs.Wire.Texts

/-!
# Numbers and texts that were read

A number of a fixed size is read from the very bytes that it is written as. A packed number
may come in more bytes than it takes, and the text behind it then is shorter when it is
written again, but never longer.
-/

namespace SessionLayer

/-! ## Numbers of a fixed size -/

/-- Bytes are what their value is written as. -/
theorem Wire.littleEndian_littleEndian (bytes : Bytes) :
    Wire.littleEndian bytes.length (Reader.littleEndian bytes) = bytes := by
  induction bytes with
  | nil => rfl
  | cons byte rest ih =>
    have small := byte.toNat_lt
    have high : (byte.toNat + 256 * Reader.littleEndian rest) / 256 = Reader.littleEndian rest := by
      omega
    have low : UInt8.ofNat (byte.toNat + 256 * Reader.littleEndian rest) = byte := by
      rw [← UInt8.toNat_inj, UInt8.toNat_ofNat']
      omega
    rw [List.length_cons, Reader.littleEndian, Wire.littleEndian, high, low, ih]

theorem Reader.littleEndian_lt (bytes : Bytes) :
    Reader.littleEndian bytes < 256 ^ bytes.length := by
  induction bytes with
  | nil => decide
  | cons byte rest ih =>
    have small := byte.toNat_lt
    rw [Reader.littleEndian, List.length_cons, Nat.pow_succ]
    omega

/-- Two bytes are what their value in sixteen bits is written as. -/
theorem Wire.littleEndian_ofNat {bytes : Bytes} (two : bytes.length = 2) :
    Wire.littleEndian 2 (UInt16.ofNat (Reader.littleEndian bytes)).toNat = bytes := by
  have fits : Reader.littleEndian bytes < 2 ^ 16 := by
    simpa [two] using Reader.littleEndian_lt bytes
  rw [UInt16.toNat_ofNat', Nat.mod_eq_of_lt fits, ← two, Wire.littleEndian_littleEndian]

namespace Reader

variable {input rest : Bytes}

theorem eq_append_of_bytes {size : Nat} {front : Bytes} (read : bytes size input = .ok front rest) :
    front.length = size ∧ input = front ++ rest := by
  obtain ⟨enough, rfl, rfl⟩ := bytes_eq_ok.mp read
  exact ⟨List.length_take_of_le enough, (List.take_append_drop size input).symm⟩

theorem eq_append_of_u16le {value : UInt16} (read : u16le input = .ok value rest) :
    input = Wire.u16le value ++ rest := by
  simp only [u16le, bind_eq_ok, pure_eq_ok] at read
  obtain ⟨front, left, taken, rfl, rfl⟩ := read
  obtain ⟨two, rfl⟩ := eq_append_of_bytes taken
  rw [Wire.u16le, Wire.littleEndian_ofNat two]

theorem eq_append_of_u16be {value : UInt16} (read : u16be input = .ok value rest) :
    input = Wire.u16be value ++ rest := by
  simp only [u16be, bind_eq_ok, pure_eq_ok] at read
  obtain ⟨front, left, taken, rfl, rfl⟩ := read
  obtain ⟨two, rfl⟩ := eq_append_of_bytes taken
  rw [Wire.u16be, bigEndian, Wire.littleEndian_ofNat (by rwa [List.length_reverse]),
    List.reverse_reverse]

/-- A field that may be absent was read, or has its usual value. -/
theorem of_ifPresent {α : Type} {size : Nat} {usual value : α} {reader : Reader α}
    (read : ifPresent size usual reader input = .ok value rest) :
    reader input = .ok value rest ∨ value = usual := by
  have same : ifPresent size usual reader input =
      (if size ≤ input.length then reader else pure usual) input := rfl
  rw [same] at read
  split at read
  · exact .inl read
  · exact .inr (pure_eq_ok.mp read).1.symm

/-! ## Packed numbers and texts -/

/-- So many groups of seven bits hold no more than that many powers of 128. -/
theorem of_sevenBitGroups {groups value : Nat}
    (read : sevenBitGroups groups input = .ok value rest) :
    ∃ used, used < groups ∧ value < 128 ^ (used + 1) ∧
      input.length = used + 1 + rest.length := by
  induction groups generalizing input value with
  | zero => cases read
  | succ groups ih =>
    rw [sevenBitGroups, bind_eq_ok] at read
    obtain ⟨byte, left, taken, read⟩ := read
    rw [u8_eq_ok.mp taken, List.length_cons]
    split at read
    · rename_i last
      obtain ⟨rfl, rfl⟩ := pure_eq_ok.mp read
      exact ⟨0, Nat.succ_pos groups, by simpa using last, by omega⟩
    · obtain ⟨high, left, others, read⟩ := bind_eq_ok.mp read
      obtain ⟨rfl, rfl⟩ := pure_eq_ok.mp read
      obtain ⟨used, within, fits, long⟩ := ih others
      refine ⟨used + 1, by omega, ?_, by omega⟩
      have small := byte.toNat_lt
      rw [Nat.pow_succ]
      omega

end Reader

/-- A number that so many groups can hold is written in no more of them. -/
theorem Wire.packedSize_le {used value : Nat} (fits : value < 128 ^ (used + 1)) :
    Wire.packedSize value ≤ used + 1 := by
  rcases used with _ | _ | _ | _ | used
  · simp [Wire.packedSize, show value < 128 by simpa using fits]
  all_goals
    unfold Wire.packedSize
    split_ifs <;> omega

namespace Reader

variable {input rest : Bytes}

theorem packedSize_le_of_packed {value : UInt32} (read : packed input = .ok value rest) :
    Wire.packedSize value.toNat + rest.length ≤ input.length := by
  simp only [packed, bind_eq_ok, pure_eq_ok] at read
  obtain ⟨number, left, groups, rfl, rfl⟩ := read
  obtain ⟨used, within, fits, long⟩ := of_sevenBitGroups groups
  have small : (UInt32.ofNat number).toNat < 128 ^ (used + 1) :=
    Nat.lt_of_le_of_lt (by rw [UInt32.toNat_ofNat']; exact Nat.mod_le _ _) fits
  have short := Wire.packedSize_le small
  omega

/-- A text that was read can be counted in thirty-two bits, and it is written in no more
bytes than it was read from. -/
theorem textSize_le_of_text {text : String} (read : Reader.text input = .ok text rest) :
    text.utf8ByteSize < 2 ^ 32 ∧ Wire.textSize text + rest.length ≤ input.length := by
  simp only [Reader.text, bind_eq_ok] at read
  obtain ⟨size, left, counted, body, behind, taken, read⟩ := read
  obtain ⟨sized, rfl⟩ := eq_append_of_bytes taken
  have length := packedSize_le_of_packed counted
  rw [List.length_append] at length
  cases decoded : Utf8.decode? body with
  | none =>
    rw [decoded] at read
    cases read
  | some found =>
    rw [decoded] at read
    obtain ⟨rfl, rfl⟩ := pure_eq_ok.mp read
    have same : found.utf8ByteSize = size.toNat := by
      rw [← Utf8.length_encode, Utf8.encode_of_decode? decoded, sized]
    rw [Wire.textSize, same]
    exact ⟨size.toNat_lt, by omega⟩

end Reader

end SessionLayer
