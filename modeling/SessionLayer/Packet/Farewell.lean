import SessionLayer.Packet.Reason
import SessionLayer.Wire.Field

/-!
# Farewells

Either side ends a session with a disconnect packet. It may be bare, or carry a
farewell: a reason and perhaps a text, inside a frame that stands behind a byte
which forces the end.
-/

namespace SessionLayer

/-- Why a session is ended, and perhaps a text for the player. -/
structure Farewell where
  reason : DisconnectReason
  message : Option String
  deriving DecidableEq

namespace Farewell

/-- A farewell without a text. -/
def plain (reason : DisconnectReason) : Farewell := ⟨reason, none⟩

/-- Reads the body of a farewell's frame. An empty body gives no reason, and what
follows the text is ignored. -/
def readBody : Reader Farewell := do
  if (← Reader.remaining) = 0 then return plain .none
  let reason := DisconnectReason.ofByte (← Reader.u8)
  if (← Reader.remaining) = 0 then return plain reason
  return ⟨reason, some (← Reader.text)⟩

/-- Reads what follows the kind byte of a disconnect packet: nothing at all, or
too little for a frame behind the first byte, is a bare one. -/
def read : Reader (Option Farewell) := do
  if (← Reader.remaining) = 0 then return none
  let _forced ← Reader.u8
  if (← Reader.remaining) < 3 then return none
  let size ← Reader.u16le
  let _tag ← Reader.u8
  let body ← Reader.bytes size.toNat
  match readBody.run body with
  | .ok farewell _ => return some farewell
  | .error fault _ => throw fault

/-- The body of a farewell's frame. -/
def body (farewell : Farewell) : Bytes :=
  farewell.reason.byte :: (farewell.message.map Wire.text).getD []

/-- The bytes of a farewell, or a refusal of a text that does not fit its
frame. -/
def encode (farewell : Farewell) : Except WireFault Bytes :=
  if farewell.body.length < 65536 then
    .ok (1 :: Wire.u16le (UInt16.ofNat farewell.body.length) ++ 0 :: farewell.body)
  else .error (.tooLarge .disconnectMessage)

end Farewell

end SessionLayer
