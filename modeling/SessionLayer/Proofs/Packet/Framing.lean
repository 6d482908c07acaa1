import SessionLayer.Proofs.Packet.Normalised

/-!
# The frames of a payload

`Framed` says which bytes are the frames of some messages, and neither reads nor writes any.
A payload is encoded as the bytes that are the frames of its messages, and is decoded from no
others. So the bytes and the payload determine each other, and the frames of two payloads that
are sent as one stand one behind the other: `Payload.framing_exact`.
-/

namespace SessionLayer

/-- These bytes are the frames of these messages, one after the other: for each message the
length of its body in two bytes, the low one first, then its tag, then its body. -/
inductive Framed : List Message → Bytes → Prop
  | nil : Framed [] []
  | cons {low high tag : UInt8} {body rest : Bytes} {messages : List Message} :
    body.length = low.toNat + 256 * high.toNat → Framed messages rest →
    Framed (.ofBytes tag body :: messages) (low :: high :: tag :: (body ++ rest))

namespace Message

variable {message : Message} {messages : List Message} {frame bytes : Bytes}

/-- A message has the one frame whose first two bytes are the length of its body. -/
theorem encode_eq_ok_iff :
    message.encode = .ok frame ↔
      ∃ low high : UInt8, message.bytes.length = low.toNat + 256 * high.toNat ∧
        frame = low :: high :: message.tag :: message.bytes := by
  constructor
  · intro written
    unfold encode at written
    split at written
    · rename_i fits
      rw [size_body] at fits written
      cases written
      have size : (UInt16.ofNat message.bytes.length).toNat = message.bytes.length := by
        rw [UInt16.toNat_ofNat', Nat.mod_eq_of_lt fits]
      refine ⟨UInt8.ofNat message.bytes.length, UInt8.ofNat (message.bytes.length / 256), ?_, ?_⟩
      · rw [UInt8.toNat_ofNat', UInt8.toNat_ofNat']
        omega
      · rw [Wire.u16le, size]
        rfl
    · cases written
  · rintro ⟨low, high, sized, rfl⟩
    have lowFits := low.toNat_lt
    have highFits := high.toNat_lt
    have same : Reader.littleEndian [low, high] = message.bytes.length := by
      rw [sized]
      rfl
    have prefixed := Wire.littleEndian_ofNat (show [low, high].length = 2 from rfl)
    rw [same] at prefixed
    rw [encode, size_body, if_pos (by omega), Wire.u16le, prefixed]
    rfl

/-- Frames that are written one after the other are those of their messages. -/
theorem mapM_encode_flatten_iff :
    (∃ frames, messages.mapM encode = .ok frames ∧ frames.flatten = bytes) ↔
      Framed messages bytes := by
  induction messages generalizing bytes with
  | nil =>
    rw [List.mapM_nil]
    constructor
    · rintro ⟨_, ⟨⟩, rfl⟩
      exact .nil
    · rintro ⟨⟩
      exact ⟨[], rfl, rfl⟩
  | cons message rest ih =>
    rw [List.mapM_cons]
    constructor
    · rintro ⟨frames, written, rfl⟩
      cases first : message.encode with
      | error fault => simp [first, bind, Except.bind] at written
      | ok frame =>
        cases others : rest.mapM encode with
        | error fault => simp [first, others, bind, Except.bind] at written
        | ok more =>
          simp only [first, others, bind, Except.bind, pure, Except.pure,
            Except.ok.injEq] at written
          subst written
          obtain ⟨low, high, sized, rfl⟩ := encode_eq_ok_iff.mp first
          rw [← ofBytes_bytes message]
          exact .cons sized (ih.mp ⟨more, others, rfl⟩)
    · rintro (_ | @⟨low, high, tag, body, tail, _, sized, framed⟩)
      obtain ⟨more, others, rfl⟩ := ih.mpr framed
      have first : (ofBytes tag body).encode = .ok (low :: high :: tag :: body) :=
        encode_eq_ok_iff.mpr ⟨low, high, by rwa [bytes_ofBytes], by
          rw [tag_ofBytes, bytes_ofBytes]⟩
      exact ⟨(low :: high :: tag :: body) :: more, by rw [first, others]; rfl, rfl⟩

end Message

namespace Payload

variable {payload : Payload} {bytes : Bytes}

theorem encode_eq_ok_iff : payload.encode = .ok bytes ↔ Framed payload.messages bytes :=
  Except.map_eq_ok.trans Message.mapM_encode_flatten_iff

/-- Bytes are decoded as the payload that is encoded as these bytes. -/
theorem decode_eq_ok_iff : decode bytes = .ok payload ↔ payload.encode = .ok bytes := by
  rw [decode, Reader.decode_eq_ok]
  constructor
  · rintro ⟨rest, read⟩
    exact encode_of_read read
  · intro written
    exact ⟨[], read_encode written⟩

/-- Bytes are the frames of no more than one list of messages. -/
theorem messages_eq_of_framed {messages others : List Message}
    (one : Framed messages bytes) (two : Framed others bytes) : messages = others := by
  have readOne : decode bytes = .ok ⟨messages⟩ := decode_eq_ok_iff.mpr (encode_eq_ok_iff.mpr one)
  have readTwo : decode bytes = .ok ⟨others⟩ := decode_eq_ok_iff.mpr (encode_eq_ok_iff.mpr two)
  rw [readOne] at readTwo
  cases readTwo
  rfl

/-- Frames of two lists of messages that are sent as one stand one behind the other. -/
theorem framed_append_iff {messages others : List Message} :
    Framed (messages ++ others) bytes ↔
      ∃ front back, Framed messages front ∧ Framed others back ∧ bytes = front ++ back := by
  induction messages generalizing bytes with
  | nil =>
    constructor
    · intro framed
      exact ⟨[], bytes, .nil, framed, rfl⟩
    · rintro ⟨_, back, ⟨⟩, framed, rfl⟩
      exact framed
  | cons message rest ih =>
    constructor
    · rintro (_ | @⟨low, high, tag, body, tail, _, sized, framed⟩)
      obtain ⟨front, back, first, second, rfl⟩ := ih.mp framed
      exact ⟨low :: high :: tag :: (body ++ front), back, .cons sized first, second,
        by simp only [List.cons_append, List.append_assoc]⟩
    · rintro ⟨_, back, _ | @⟨low, high, tag, body, front, _, sized, first⟩, second, rfl⟩
      simp only [List.cons_append, List.append_assoc]
      exact .cons sized (ih.mpr ⟨front, back, first, second, rfl⟩)

/-- A payload is encoded where the length of each body fits its two bytes. -/
theorem encodable_iff :
    (∃ bytes, payload.encode = .ok bytes) ↔
      ∀ message ∈ payload.messages, message.bytes.length ≤ 65535 := by
  constructor
  · rintro ⟨bytes, written⟩ message member
    refine Nat.le_of_not_lt fun large => ?_
    have refused := encode_eq_error_iff.mpr ⟨rfl, message, member, large⟩
    rw [written] at refused
    cases refused
  · intro fits
    cases written : payload.encode with
    | ok bytes => exact ⟨bytes, rfl⟩
    | error fault =>
      obtain ⟨-, message, member, large⟩ := encode_eq_error_iff.mp written
      exact absurd (fits message member) (Nat.not_le_of_lt large)

/-- Decoding and encoding are the two directions of one grammar: the bytes that are decoded
are the frames of some messages one after the other, they are the frames of these messages
only, and two payloads that are sent as one are encoded as the bytes of the first and then
those of the second. What has no frames is a payload with a body that is too long. -/
theorem framing_exact :
    (∀ bytes payload, decode bytes = .ok payload ↔ payload.encode = .ok bytes) ∧
    (∀ bytes payload, decode bytes = .ok payload ↔ Framed payload.messages bytes) ∧
    (∀ bytes messages others, Framed messages bytes → Framed others bytes →
      messages = others) ∧
    (∀ payload other : Payload, ∀ bytes, payload.encode = .ok bytes →
      other.encode = .ok bytes → payload = other) ∧
    (∀ messages others whole, encode ⟨messages ++ others⟩ = .ok whole ↔
      ∃ front back, encode ⟨messages⟩ = .ok front ∧ encode ⟨others⟩ = .ok back ∧
        whole = front ++ back) ∧
    ∀ payload : Payload, (∃ bytes, payload.encode = .ok bytes) ↔
      ∀ message ∈ payload.messages, message.bytes.length ≤ 65535 := by
  refine ⟨fun _ _ => decode_eq_ok_iff, fun _ _ => decode_eq_ok_iff.trans encode_eq_ok_iff,
    fun _ _ _ => messages_eq_of_framed, ?_, ?_, fun _ => encodable_iff⟩
  · intro payload other bytes one two
    have same := messages_eq_of_framed (encode_eq_ok_iff.mp one) (encode_eq_ok_iff.mp two)
    cases payload
    cases other
    exact congrArg _ same
  · intro messages others whole
    simp only [encode_eq_ok_iff]
    exact framed_append_iff

/-- A frame with one byte and an empty one are the only two that these bytes can be. -/
theorem framing_exact_twoFrames :
    encode ⟨[.ofBytes 7 [170], .ofBytes 9 []]⟩ = .ok [1, 0, 7, 170, 0, 0, 9] ∧
    decode [1, 0, 7, 170, 0, 0, 9] = .ok ⟨[.ofBytes 7 [170], .ofBytes 9 []]⟩ ∧
    ∀ messages, Framed messages [1, 0, 7, 170, 0, 0, 9] →
      messages = [.ofBytes 7 [170], .ofBytes 9 []] := by
  have written : encode ⟨[.ofBytes 7 [170], .ofBytes 9 []]⟩ = .ok [1, 0, 7, 170, 0, 0, 9] := by
    rfl
  obtain ⟨decoded, framed, unique, -⟩ := framing_exact
  have read := (decoded _ _).mpr written
  exact ⟨written, read, fun messages frames => unique _ _ _ frames ((framed _ _).mp read)⟩

end Payload

end SessionLayer
