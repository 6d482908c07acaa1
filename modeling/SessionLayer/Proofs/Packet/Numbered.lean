import SessionLayer.Packet.Basic
import SessionLayer.Proofs.Halting
import SessionLayer.Proofs.Wire.Numbers

/-!
# Reading packets that were written

A payload is read back from its frames, and with it every packet that a session
writes while it is open: payloads, pings and acknowledgements.
-/

namespace SessionLayer

/-! ## Payloads -/

theorem Message.read_append {message : Message} {frame : Bytes}
    (written : message.encode = .ok frame) (rest : Bytes) :
    Message.read (frame ++ rest) = .ok message rest := by
  unfold Message.encode at written
  split at written
  · rename_i fits
    cases written
    have size : (UInt16.ofNat message.body.size).toNat = message.bytes.length := by
      rw [UInt16.toNat_ofNat', Nat.mod_eq_of_lt fits, Message.size_body]
    simp only [Message.read, Reader.bind_eq_ok, Reader.pure_eq_ok, List.append_assoc,
      List.cons_append]
    exact ⟨_, _, Reader.u16le_append _ _, message.tag, _, rfl, _, _,
      Reader.bytes_append size.symm rest, message.ofBytes_bytes, rfl⟩
  · cases written

theorem Message.encode_ne_nil {message : Message} {frame : Bytes}
    (written : message.encode = .ok frame) : frame ≠ [] := by
  rintro rfl
  unfold Message.encode at written
  split at written
  · have clash := congrArg List.length (Except.ok.inj written)
    simp at clash
  · cases written

theorem Payload.readFrames_flatten {messages : List Message} {frames : List Bytes}
    (written : messages.mapM Message.encode = .ok frames) (seen : List Message) :
    Payload.readFrames seen frames.flatten = .ok ⟨seen.reverse ++ messages⟩ [] := by
  induction messages generalizing frames seen with
  | nil =>
    rw [List.mapM_nil] at written
    cases written
    rw [List.flatten_nil, Payload.readFrames, List.append_nil]
    rfl
  | cons message rest ih =>
    rw [List.mapM_cons] at written
    cases first : message.encode with
    | error fault => simp [first, bind, Except.bind] at written
    | ok frame =>
      cases others : rest.mapM Message.encode with
      | error fault => simp [first, others, bind, Except.bind] at written
      | ok more =>
        simp only [first, others, bind, Except.bind, pure, Except.pure, Except.ok.injEq] at written
        subst written
        have some : (frame ++ more.flatten).isEmpty = false := by
          simp [Message.encode_ne_nil first]
        rw [List.flatten_cons, Payload.readFrames, if_neg (by simp [some])]
        split
        · rename_i head left read
          rw [Message.read_append first] at read
          cases read
          rw [ih others, List.reverse_cons, List.append_assoc, List.singleton_append]
        · rename_i fault left read
          rw [Message.read_append first] at read
          cases read

/-- The frames of a payload are read as this payload, to their end. -/
theorem Payload.read_encode {payload : Payload} {bytes : Bytes}
    (written : payload.encode = .ok bytes) : Payload.read bytes = .ok payload [] := by
  obtain ⟨frames, encoded, rfl⟩ := Except.map_eq_ok.mp written
  have frames := Payload.readFrames_flatten encoded []
  rwa [List.reverse_nil, List.nil_append] at frames

/-! ## Packets -/

namespace Packet

/-- A datagram is decoded by the reader of its kind. -/
theorem decode_tag_cons (kind : PacketKind) (body : Bytes) :
    decode (kind.tag :: body) = (readBody kind).decode body := by
  unfold decode
  rw [PacketKind.peek, PacketKind.ofTag_tag]
  rfl

theorem decode_reliable {sequence : Sequence} {payload : Payload} {datagram : Bytes}
    (written : (reliable sequence payload).encode = .ok datagram) :
    decode datagram = .ok (.reliable sequence payload) := by
  obtain ⟨body, encoded, rfl⟩ := Except.map_eq_ok.mp written
  obtain ⟨frames, framed, rfl⟩ := Except.map_eq_ok.mp encoded
  have read : readBody .reliable (Wire.u16be sequence ++ frames) =
      .ok (.reliable sequence payload) [] := by
    simp only [readBody, Reader.bind_eq_ok, Reader.pure_eq_ok]
    exact ⟨sequence, frames, Reader.u16be_append .., payload, [], Payload.read_encode framed,
      rfl, rfl⟩
  rw [kind, decode_tag_cons]
  simp only [Reader.decode, EStateM.run, read]

theorem expectEnd_nil (kind : PacketKind) : expectEnd kind [] = .ok () [] := rfl

theorem decode_ping (sequence : Sequence) :
    decode (PacketKind.ping.tag :: Wire.u16be sequence) = .ok (.ping sequence) := by
  have number := Reader.u16be_append sequence []
  rw [List.append_nil] at number
  have read : readBody .ping (Wire.u16be sequence) = .ok (.ping sequence) [] := by
    simp only [readBody, Reader.bind_eq_ok, Reader.pure_eq_ok]
    exact ⟨sequence, [], number, (), [], expectEnd_nil .ping, rfl, rfl⟩
  rw [decode_tag_cons]
  simp only [Reader.decode, EStateM.run, read]

theorem decode_acknowledge (sequence : Sequence) (missing : UInt8) :
    decode (PacketKind.acknowledge.tag :: (Wire.u16be sequence ++ [missing])) =
      .ok (.acknowledge sequence missing) := by
  have read : readBody .acknowledge (Wire.u16be sequence ++ [missing]) =
      .ok (.acknowledge sequence missing) [] := by
    simp only [readBody, Reader.bind_eq_ok, Reader.pure_eq_ok]
    exact ⟨sequence, [missing], Reader.u16be_append .., missing, [], rfl, (), [],
      expectEnd_nil .acknowledge, rfl, rfl⟩
  rw [decode_tag_cons]
  simp only [Reader.decode, EStateM.run, read]

theorem encode_ack (sequence : Sequence) :
    (ack sequence).encode =
      .ok (PacketKind.acknowledge.tag :: (Wire.u16be sequence ++ [0xff])) := rfl

theorem decode_ack {sequence : Sequence} {datagram : Bytes}
    (written : (ack sequence).encode = .ok datagram) :
    decode datagram = .ok (ack sequence) := by
  rw [encode_ack, Except.ok.injEq] at written
  rw [← written]
  exact decode_acknowledge sequence 0xff

end Packet

end SessionLayer
