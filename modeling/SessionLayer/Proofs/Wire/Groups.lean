import Mathlib.Data.Nat.Digits.Defs
import SessionLayer.Proofs.Wire.Texts

/-!
# The bytes of a packed number

A packed number comes as groups of seven bits (`Wire.IsGrouped`), and what is read of at
most five of them is the low thirty-two bits of the number that they stand for
(`Wire.groupsValue`). Four groups always fit. Of a fifth only the low four bits do, and the
three above them are lost without a refusal: `Reader.packed_exact_iff`.
-/

namespace SessionLayer

namespace Wire

/-- Bytes of which the high bit is set on every one but the last. -/
inductive IsGrouped : Bytes → Prop
  | last {byte : UInt8} (low : byte.toNat < 128) : IsGrouped [byte]
  | more {byte : UInt8} {rest : Bytes} (high : 128 ≤ byte.toNat) (others : IsGrouped rest) :
    IsGrouped (byte :: rest)

/-- The number that the low seven bits of each byte stand for, the lowest first. -/
def groupsValue (groups : Bytes) : Nat :=
  Nat.ofDigits 128 (groups.map fun byte => byte.toNat % 128)

theorem groupsValue_cons (byte : UInt8) (rest : Bytes) :
    groupsValue (byte :: rest) = byte.toNat % 128 + 128 * groupsValue rest :=
  Nat.ofDigits_cons

theorem groupsValue_singleton (byte : UInt8) : groupsValue [byte] = byte.toNat % 128 := by
  simp [groupsValue]

theorem groupsValue_append (front rest : Bytes) :
    groupsValue (front ++ rest) = groupsValue front + 128 ^ front.length * groupsValue rest := by
  rw [groupsValue, List.map_append, Nat.ofDigits_append, List.length_map]
  rfl

theorem groupsValue_lt (groups : Bytes) : groupsValue groups < 128 ^ groups.length := by
  induction groups with
  | nil => decide
  | cons byte rest ih =>
    rw [groupsValue_cons, List.length_cons, Nat.pow_succ]
    omega

/-- The byte that the groups end with is the one whose high bit is clear. -/
theorem IsGrouped.low_of_getElem? {groups : Bytes} (grouped : IsGrouped groups) {place : Nat}
    (last : groups.length ≤ place + 1) : ∀ byte ∈ groups[place]?, byte.toNat < 128 := by
  induction grouped generalizing place with
  | last low =>
    intro byte found
    cases place with
    | zero =>
      cases found
      exact low
    | succ place => cases found
  | more high others ih =>
    intro byte found
    cases place with
    | zero => cases others <;> simp at last
    | succ place => exact ih (by simpa using last) byte (by simpa using found)

/-- Groups that end within five bytes stand for a number of thirty-two bits unless the fifth
one uses more than four of its own. -/
theorem IsGrouped.value_lt_iff {groups : Bytes} (grouped : IsGrouped groups)
    (short : groups.length ≤ 5) :
    groupsValue groups < 2 ^ 32 ↔ ∀ fifth ∈ groups[4]?, fifth.toNat < 16 := by
  have low := groupsValue_lt (groups.take 4)
  have value := groupsValue_append (groups.take 4) (groups.drop 4)
  rw [List.take_append_drop] at value
  -- Four groups are twenty-eight bits, so only a fifth one can go beyond thirty-two.
  cases back : groups.drop 4 with
  | nil =>
    have none : groups[4]? = none := List.getElem?_eq_none (List.drop_eq_nil_iff.mp back)
    have few : 128 ^ (groups.take 4).length ≤ 128 ^ 4 :=
      Nat.pow_le_pow_right (by decide) (List.length_take_le 4 groups)
    have zero : groupsValue [] = 0 := rfl
    rw [back, zero] at value
    rw [none]
    simp only [Option.not_mem_none, false_implies, implies_true, iff_true]
    omega
  | cons fifth rest =>
    have front : groups.take 4 ++ fifth :: rest = groups := by rw [← back, List.take_append_drop]
    have size := congrArg List.length back
    rw [List.length_drop, List.length_cons] at size
    have four : (groups.take 4).length = 4 := List.length_take_of_le (by omega)
    obtain rfl : rest = [] := List.eq_nil_of_length_eq_zero (by omega)
    have found : groups[4]? = some fifth := by
      rw [← front, List.getElem?_append_right (by omega), four]
      rfl
    have clear := grouped.low_of_getElem? (by omega) fifth found
    rw [back, four, groupsValue_singleton, Nat.mod_eq_of_lt clear] at value
    rw [four] at low
    rw [found]
    simp only [Option.mem_some_iff, forall_eq']
    omega

end Wire

namespace Reader

open Wire

variable {input rest : Bytes}

/-- Groups are read up to the first byte whose high bit is clear. -/
theorem sevenBitGroups_eq_ok {most value : Nat} :
    sevenBitGroups most input = .ok value rest ↔
      ∃ groups, input = groups ++ rest ∧ IsGrouped groups ∧ groups.length ≤ most ∧
        value = groupsValue groups := by
  induction most generalizing input value with
  | zero =>
    constructor
    · intro read
      cases read
    · rintro ⟨groups, -, grouped, short, -⟩
      cases grouped <;> simp at short
  | succ most ih =>
    simp only [sevenBitGroups, bind_eq_ok, u8_eq_ok]
    constructor
    · rintro ⟨byte, left, rfl, read⟩
      split at read
      · rename_i low
        obtain ⟨rfl, rfl⟩ := pure_eq_ok.mp read
        refine ⟨[byte], rfl, .last low, by simp, ?_⟩
        rw [groupsValue_singleton, Nat.mod_eq_of_lt low]
      · rename_i high
        obtain ⟨number, behind, others, read⟩ := bind_eq_ok.mp read
        obtain ⟨rfl, rfl⟩ := pure_eq_ok.mp read
        obtain ⟨groups, rfl, grouped, short, rfl⟩ := ih.mp others
        have small := byte.toNat_lt
        refine ⟨byte :: groups, rfl, .more (by omega) grouped, by simp; omega, ?_⟩
        rw [groupsValue_cons]
        omega
    · rintro ⟨groups, rfl, grouped, short, rfl⟩
      cases grouped with
      | last low =>
        refine ⟨_, _, rfl, ?_⟩
        rw [if_pos low, pure_eq_ok, groupsValue_singleton, Nat.mod_eq_of_lt low]
        exact ⟨rfl, rfl⟩
      | @more byte groups high others =>
        refine ⟨_, _, rfl, ?_⟩
        rw [List.length_cons] at short
        have small := byte.toNat_lt
        rw [if_neg (by omega), bind_eq_ok]
        refine ⟨_, _, ih.mpr ⟨groups, rfl, others, by omega, rfl⟩, pure_eq_ok.mpr ⟨?_, rfl⟩⟩
        rw [groupsValue_cons]
        omega

/-- A reader that goes on after another one fails where one of the two does. -/
theorem bind_eq_error {α β : Type} {first : Reader α} {next : α → Reader β} {fault : WireFault} :
    (first >>= next) input = .error fault rest ↔
      first input = .error fault rest ∨
        ∃ value left, first input = .ok value left ∧ next value left = .error fault rest := by
  simp only [bind, EStateM.bind]
  cases first input <;> simp

theorem u8_eq_error {fault : WireFault} :
    u8 input = .error fault rest ↔ input = [] ∧ rest = [] ∧ fault = .truncated 1 0 := by
  cases input <;> simp [u8, eq_comm, and_comm]

/-- Groups are refused where the high bit of every byte looked at is set. -/
theorem sevenBitGroups_eq_error {most : Nat} {fault : WireFault} :
    sevenBitGroups most input = .error fault rest ↔
      (∀ byte ∈ input.take most, 128 ≤ byte.toNat) ∧ rest = input.drop most ∧
        fault = if most ≤ input.length then .packedOverflow else .truncated 1 0 := by
  induction most generalizing input with
  | zero =>
    have refused : sevenBitGroups 0 input = .error .packedOverflow input := rfl
    simp [refused, eq_comm, and_comm]
  | succ most ih =>
    rw [sevenBitGroups, bind_eq_error, u8_eq_error]
    simp only [u8_eq_ok]
    cases input with
    | nil => simp
    | cons byte input =>
      simp only [reduceCtorEq, false_and, false_or, List.cons.injEq, List.take_succ_cons,
        List.forall_mem_cons, List.drop_succ_cons, List.length_cons, Nat.add_le_add_iff_right]
      constructor
      · rintro ⟨_, _, ⟨rfl, rfl⟩, read⟩
        split at read
        · cases read
        · rename_i high
          rcases bind_eq_error.mp read with read | ⟨_, _, -, read⟩
          · obtain ⟨all, rest⟩ := ih.mp read
            exact ⟨⟨Nat.le_of_not_lt high, all⟩, rest⟩
          · cases read
      · rintro ⟨⟨high, all⟩, rest⟩
        refine ⟨_, _, ⟨rfl, rfl⟩, ?_⟩
        rw [if_neg (Nat.not_lt.mpr high)]
        exact bind_eq_error.mpr (.inl (ih.mpr ⟨all, rest⟩))

theorem packed_eq_ok {value : UInt32} :
    packed input = .ok value rest ↔
      ∃ groups, input = groups ++ rest ∧ IsGrouped groups ∧ groups.length ≤ 5 ∧
        value.toNat = groupsValue groups % 2 ^ 32 := by
  simp only [packed, bind_eq_ok, pure_eq_ok, sevenBitGroups_eq_ok]
  constructor
  · rintro ⟨number, left, ⟨groups, rfl, grouped, short, rfl⟩, rfl, rfl⟩
    exact ⟨groups, rfl, grouped, short, UInt32.toNat_ofNat'⟩
  · rintro ⟨groups, rfl, grouped, short, low⟩
    refine ⟨_, _, ⟨groups, rfl, grouped, short, rfl⟩, ?_, rfl⟩
    rw [← UInt32.toNat_inj, UInt32.toNat_ofNat', low]

theorem packed_eq_error {fault : WireFault} :
    packed input = .error fault rest ↔ sevenBitGroups 5 input = .error fault rest := by
  rw [packed, bind_eq_error]
  refine or_iff_left ?_
  rintro ⟨_, _, -, read⟩
  cases read

/-- What a packed number is read as, for every input. The bytes up to the first one whose
high bit is clear are read if they are at most five, and anything else is refused. The value
is the low thirty-two bits of the number that the bytes stand for, which is that number
unless there is a fifth byte of 16 or more. -/
theorem packed_exact_iff (input : Bytes) :
    (∀ value rest, packed input = .ok value rest ↔
      ∃ groups, input = groups ++ rest ∧ IsGrouped groups ∧ groups.length ≤ 5 ∧
        value.toNat = groupsValue groups % 2 ^ 32) ∧
    (∀ fault rest, packed input = .error fault rest ↔
      (∀ byte ∈ input.take 5, 128 ≤ byte.toNat) ∧ rest = input.drop 5 ∧
        fault = if 5 ≤ input.length then .packedOverflow else .truncated 1 0) ∧
    ∀ value groups rest, packed input = .ok value rest → input = groups ++ rest →
      (value.toNat = groupsValue groups ↔ ∀ fifth ∈ groups[4]?, fifth.toNat < 16) := by
  refine ⟨fun value rest => packed_eq_ok,
    fun fault rest => packed_eq_error.trans sevenBitGroups_eq_error,
    fun value groups rest read split => ?_⟩
  obtain ⟨same, joined, grouped, short, low⟩ := packed_eq_ok.mp read
  obtain rfl : same = groups := List.append_cancel_right (joined.symm.trans split)
  rw [low, Nat.mod_eq_iff_lt (by decide), grouped.value_lt_iff short]

theorem packed_exact_iff_fullFifth :
    packed [0xff, 0xff, 0xff, 0xff, 0x1f] = .ok 4294967295 [] ∧
      groupsValue [0xff, 0xff, 0xff, 0xff, 0x1f] = 8589934591 ∧
      ((4294967295 : UInt32).toNat = groupsValue [0xff, 0xff, 0xff, 0xff, 0x1f] ↔
        ∀ fifth ∈ [0xff, 0xff, 0xff, 0xff, (0x1f : UInt8)][4]?, fifth.toNat < 16) := by
  have read : packed [0xff, 0xff, 0xff, 0xff, 0x1f] = .ok 4294967295 [] := rfl
  exact ⟨read, by decide, (packed_exact_iff _).2.2 _ _ _ read rfl⟩

end Reader

end SessionLayer
