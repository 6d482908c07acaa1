/-!
# Client numbers

The server numbers its clients. The number is what every command and every
event names a client by; people read it as `C-7`.
-/

namespace SessionLayer

/-- The number of a client. -/
structure ClientId where
  value : UInt32
  deriving DecidableEq, Inhabited

/-- How a client number is shown to people. -/
def ClientId.text (id : ClientId) : String := "C-" ++ toString id.value.toNat

/-- The number given out after this one: numbers count up from one, and after
the largest they start again at one, so that zero is never given out. -/
def ClientId.next (id : ClientId) : ClientId :=
  if id.value + 1 = 0 then ⟨1⟩ else ⟨id.value + 1⟩

end SessionLayer
