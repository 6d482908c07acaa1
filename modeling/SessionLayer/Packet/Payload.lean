import SessionLayer.Wire.Field

/-!
# Payloads

What an application sends is a run of messages. Each stands in a frame: the
length of its body in sixteen bits, its tag, its body. A payload is the frames
one after the other, so it ends where its last frame ends.
-/

namespace SessionLayer

/-- One message of an application. The body is packed, so that its size is known
without counting. -/
structure Message where
  tag : UInt8
  body : ByteArray

namespace Message

/-- The bytes of the body. -/
def bytes (message : Message) : Bytes := message.body.data.toList

/-- The message with these bytes as its body. -/
def ofBytes (tag : UInt8) (bytes : Bytes) : Message := ⟨tag, ⟨bytes.toArray⟩⟩

@[simp] theorem tag_ofBytes (tag : UInt8) (bytes : Bytes) : (ofBytes tag bytes).tag = tag := rfl

@[simp] theorem bytes_ofBytes (tag : UInt8) (bytes : Bytes) :
    (ofBytes tag bytes).bytes = bytes := by
  simp [ofBytes, Message.bytes]

@[simp] theorem ofBytes_bytes (message : Message) :
    ofBytes message.tag message.bytes = message := by
  simp [ofBytes, bytes]

/-- Messages are told apart by their tags and bytes. -/
instance : DecidableEq Message := fun first second =>
  decidable_of_iff (first.tag = second.tag ∧ first.bytes = second.bytes)
    ⟨fun ⟨tags, bytes⟩ => by rw [← ofBytes_bytes first, ← ofBytes_bytes second, tags, bytes],
      fun same => by simp [same]⟩

@[simp] theorem size_body (message : Message) : message.body.size = message.bytes.length :=
  Array.length_toList.symm

/-- The size of the frame around a message. -/
def frameSize (message : Message) : Nat := 3 + message.body.size

/-- The frame of a message, or a refusal of a body whose length does not fit. -/
def encode (message : Message) : Except WireFault Bytes :=
  if message.body.size < 65536 then
    .ok (Wire.u16le (UInt16.ofNat message.body.size) ++ message.tag :: message.bytes)
  else .error (.tooLarge .messageBody)

/-- Reads one frame. -/
def read : Reader Message := do
  let size ← Reader.u16le
  let tag ← Reader.u8
  let body ← Reader.bytes size.toNat
  return .ofBytes tag body

/-- A frame is never empty: reading one leaves fewer bytes. -/
theorem length_lt_of_read {input rest : Bytes} {message : Message}
    (h : read input = .ok message rest) : rest.length < input.length := by
  simp only [read, Reader.bind_eq_ok, Reader.u16le_eq_ok, Reader.u8_eq_ok, Reader.bytes_eq_ok,
    Reader.pure_eq_ok] at h
  obtain ⟨_, _, ⟨_, _, rfl⟩, _, _, left, _, _, ⟨_, _, rfl⟩, _, rfl⟩ := h
  have := congrArg List.length left
  simp at this
  simp
  omega

end Message

/-- What an application sends at once. -/
structure Payload where
  messages : List Message
  deriving DecidableEq, Inhabited

namespace Payload

/-- The frames of all messages, or a refusal at the first that has none. -/
def encode (payload : Payload) : Except WireFault Bytes :=
  List.flatten <$> payload.messages.mapM Message.encode

/-- Reads frames until the bytes are used up; `seen` holds the messages so far,
the latest first. -/
def readFrames (seen : List Message) (input : Bytes) : EStateM.Result WireFault Bytes Payload :=
  if input.isEmpty then .ok ⟨seen.reverse⟩ []
  else
    match _h : Message.read input with
    | .ok message rest => readFrames (message :: seen) rest
    | .error fault rest => .error fault rest
  termination_by input.length
  decreasing_by exact Message.length_lt_of_read _h

/-- Reads frames until the bytes are used up. -/
def read : Reader Payload := readFrames []

/-- The payload whose frames these bytes are. -/
def decode (input : Bytes) : Except WireFault Payload := read.decode input

end Payload

end SessionLayer
