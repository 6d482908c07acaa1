import SessionLayer.Text.Utf8

/-!
# Reading fields off the front of a datagram

A `Reader` takes fields off the front of the bytes that are left. A refusal says
why and keeps what is left at that moment: a field that is cut short leaves the
bytes where they were, while a packed integer that never ends, or a text that is
not UTF-8, has used up the bytes it looked at.
-/

namespace SessionLayer

/-- A computation on the bytes that are left, which may refuse them. -/
abbrev Reader := EStateM WireFault Bytes

namespace Reader

/-- The value of bytes with the least significant one first. -/
def littleEndian : Bytes → Nat
  | [] => 0
  | byte :: rest => byte.toNat + 256 * littleEndian rest

/-- The value of bytes with the most significant one first. -/
def bigEndian (bytes : Bytes) : Nat := littleEndian bytes.reverse

/-- How many bytes are left. -/
def remaining : Reader Nat := fun input => .ok input.length input

/-- The next `size` bytes, or a refusal that leaves all of them. -/
def bytes (size : Nat) : Reader Bytes := fun input =>
  let front := input.take size
  if front.length < size then .error (.truncated size input.length) input
  else .ok front (input.drop size)

/-- All the bytes that are left. -/
def rest : Reader Bytes := fun input => .ok input []

/-- One byte. -/
def u8 : Reader UInt8
  | [] => .error (.truncated 1 0) []
  | byte :: rest => .ok byte rest

/-- Sixteen bits, the high byte first. -/
def u16be : Reader UInt16 := do return UInt16.ofNat (bigEndian (← bytes 2))

/-- Sixteen bits, the low byte first. -/
def u16le : Reader UInt16 := do return UInt16.ofNat (littleEndian (← bytes 2))

/-- Thirty-two bits, the low byte first. -/
def u32le : Reader UInt32 := do return UInt32.ofNat (littleEndian (← bytes 4))

/-- Thirty-two bits in two's complement, the low byte first. -/
def i32le : Reader Int32 := do return (← u32le).toInt32

/-- Groups of seven bits, the lowest first. The high bit of a byte says that
another group follows, and at most `groups` of them may. -/
def sevenBitGroups : Nat → Reader Nat
  | 0 => throw .packedOverflow
  | groups + 1 => do
    let byte ← u8
    if byte.toNat < 128 then return byte.toNat
    else return byte.toNat - 128 + 128 * (← sevenBitGroups groups)

/-- A packed integer: at most five groups, of which the value keeps the low
thirty-two bits. -/
def packed : Reader UInt32 := do return UInt32.ofNat (← sevenBitGroups 5)

/-- A text: the packed number of its bytes, then the bytes. -/
def text : Reader String := do
  let body ← bytes (← packed).toNat
  match Utf8.decode? body with
  | some text => return text
  | none => throw .invalidUtf8

/-- Runs a reader where at least `size` bytes are left, and keeps `usual` where
there are fewer. -/
def ifPresent {α : Type} (size : Nat) (usual : α) (reader : Reader α) : Reader α := do
  if size ≤ (← remaining) then reader else return usual

/-- Runs a reader on all of `input`, forgetting what it leaves. -/
def decode {α : Type} (reader : Reader α) (input : Bytes) : Except WireFault α :=
  match reader.run input with
  | .ok value _ => .ok value
  | .error fault _ => .error fault

/-! ## When a reader succeeds -/

theorem bind_eq_ok {α β : Type} {x : Reader α} {f : α → Reader β} {input rest : Bytes}
    {b : β} :
    (x >>= f) input = .ok b rest ↔
      ∃ a left, x input = .ok a left ∧ f a left = .ok b rest := by
  simp only [bind, EStateM.bind]
  cases x input with
  | ok value left => simp only [EStateM.Result.ok.injEq]; grind
  | error fault left => simp

theorem map_eq_ok {α β : Type} {x : Reader α} {f : α → β} {input rest : Bytes} {b : β} :
    (f <$> x) input = .ok b rest ↔ ∃ a, x input = .ok a rest ∧ f a = b := by
  simp only [Functor.map, EStateM.map]
  cases x input with
  | ok value left => simp only [EStateM.Result.ok.injEq]; grind
  | error fault left => simp

theorem pure_eq_ok {α : Type} {a b : α} {input rest : Bytes} :
    (pure a : Reader α) input = .ok b rest ↔ a = b ∧ input = rest := by
  simp [pure, EStateM.pure]

theorem bytes_eq_ok {size : Nat} {input front rest : Bytes} :
    bytes size input = .ok front rest ↔
      size ≤ input.length ∧ input.take size = front ∧ input.drop size = rest := by
  simp only [bytes, List.length_take]
  split
  · simp; omega
  · simp; omega

theorem u8_eq_ok {input rest : Bytes} {byte : UInt8} :
    u8 input = .ok byte rest ↔ input = byte :: rest := by
  cases input <;> simp [u8]

theorem u16le_eq_ok {input rest : Bytes} {value : UInt16} :
    u16le input = .ok value rest ↔
      2 ≤ input.length ∧ UInt16.ofNat (littleEndian (input.take 2)) = value
        ∧ input.drop 2 = rest := by
  simp only [u16le, bind_eq_ok, bytes_eq_ok, pure_eq_ok]
  grind

end Reader

end SessionLayer
