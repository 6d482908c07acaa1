import SessionLayer.Proofs.Packet.Written
import SessionLayer.Proofs.Wire.Accepted

/-!
# Packets written again

Reading tolerates more than writing makes: fields that are missing, bytes behind the last
field, packed numbers in more bytes than they take, numbers without a name. Whatever a
datagram is read as is `Packet.Settled` all the same, so it can be written again and is
read back as the same packet; a payload or a ping is even written as the very bytes that
it came in. This is `Packet.decode_normalises`.
-/

namespace SessionLayer

/-! ## Builds -/

namespace ClientVersion

/-- The parts of a build weigh as much as the number they come from. -/
theorem weight_ofPacked (packed : Int32) : (ofPacked packed).weight = packed.toInt.toNat := by
  have small : packed.toInt.toNat < 2 ^ 31 := by
    have := packed.toInt_lt
    omega
  have part {value : Nat} (fits : value < 2 ^ 31) : (UInt32.ofNat value).toNat = value := by
    rw [UInt32.toNat_ofNat', Nat.mod_eq_of_lt (by omega)]
  simp only [weight, ofPacked]
  rw [part (by omega), part (by omega), part (by omega), part (by omega)]
  omega

theorem packable_ofPacked (packed : Int32) : (ofPacked packed).Packable := by
  have small := packed.toInt_lt
  rw [Packable, weight_ofPacked, UInt32.size]
  omega

/-- Thirty-one bits are read the same with a sign and without one. -/
theorem toNat_toInt_ofNat {value : Nat} (fits : value < 2 ^ 31) :
    (UInt32.ofNat value).toInt32.toInt.toNat = value := by
  have signed : (UInt32.ofNat value).toInt32.toInt =
      ((UInt32.ofNat value).toNat : Int).bmod (2 ^ 32) := by
    rw [← UInt32.toNat_toBitVec, ← BitVec.toInt_eq_toNat_bmod]
    rfl
  rw [signed, UInt32.toNat_ofNat', Nat.mod_eq_of_lt (by omega),
    Int.bmod_eq_of_le (by omega) (by omega), Int.toNat_natCast]

theorem canonical_ofPacked (packed : Int32) : (ofPacked packed).Canonical := by
  have small := packed.toInt_lt
  rw [Canonical, toPacked, weight_ofPacked]
  simp only [ofPacked, toNat_toInt_ofNat (show packed.toInt.toNat < 2 ^ 31 by omega)]

end ClientVersion

/-! ## Payloads -/

/-- A frame that was read is the one that its message has. -/
theorem Message.encode_of_read {input rest : Bytes} {message : Message}
    (read : Message.read input = .ok message rest) :
    ∃ frame, message.encode = .ok frame ∧ input = frame ++ rest := by
  simp only [Message.read, Reader.bind_eq_ok, Reader.pure_eq_ok] at read
  obtain ⟨size, _, sized, tag, _, tagged, body, _, taken, rfl, rfl⟩ := read
  obtain ⟨long, rfl⟩ := Reader.eq_append_of_bytes taken
  rw [Reader.u8_eq_ok.mp tagged] at sized
  have fits : (Message.ofBytes tag body).body.size = size.toNat := by
    rw [Message.size_body, Message.bytes_ofBytes, long]
  refine ⟨Wire.u16le size ++ tag :: body, ?_, ?_⟩
  · rw [Message.encode, fits, if_pos size.toNat_lt, UInt16.ofNat_toNat, Message.bytes_ofBytes,
      Message.tag_ofBytes]
  · rw [Reader.eq_append_of_u16le sized, List.append_assoc, List.cons_append]

/-- Frames that were read are the ones that their messages have, and nothing is left behind
them. -/
theorem Payload.encode_of_readFrames {seen : List Message} {input rest : Bytes}
    {payload : Payload} (read : Payload.readFrames seen input = .ok payload rest) :
    ∃ messages frames, payload.messages = seen.reverse ++ messages ∧
      messages.mapM Message.encode = .ok frames ∧ input = frames.flatten := by
  induction seen, input using Payload.readFrames.induct generalizing payload with
  | case1 seen input ends =>
    rw [Payload.readFrames, if_pos ends] at read
    cases read
    exact ⟨[], [], (List.append_nil _).symm, rfl, List.isEmpty_iff.mp ends⟩
  | case2 seen input more message left first ih =>
    rw [Payload.readFrames, if_neg more] at read
    split at read
    · rename_i head tail again
      rw [first] at again
      cases again
      obtain ⟨messages, frames, whole, written, rfl⟩ := ih read
      obtain ⟨frame, encoded, rfl⟩ := Message.encode_of_read first
      refine ⟨message :: messages, frame :: frames, ?_, ?_, rfl⟩
      · rw [whole, List.reverse_cons, List.append_assoc, List.singleton_append]
      · rw [List.mapM_cons, encoded, written]
        rfl
    · rename_i fault tail again
      rw [first] at again
      cases again
  | case3 seen input more fault left first =>
    rw [Payload.readFrames, if_neg more] at read
    split at read
    · rename_i head tail again
      rw [first] at again
      cases again
    · cases read

theorem Payload.encode_of_read {input rest : Bytes} {payload : Payload}
    (read : Payload.read input = .ok payload rest) : payload.encode = .ok input := by
  obtain ⟨messages, frames, whole, written, rfl⟩ := Payload.encode_of_readFrames read
  rw [List.reverse_nil, List.nil_append] at whole
  rw [Payload.encode, whole, written]
  rfl

/-- What can be written is not too large to be written. -/
theorem Payload.fits_of_encode {payload : Payload} {bytes : Bytes}
    (written : payload.encode = .ok bytes) :
    ¬ ∃ message ∈ payload.messages, 65535 < message.bytes.length := by
  intro large
  have refused := Payload.encode_eq_error_iff.mpr ⟨rfl, large⟩
  rw [written] at refused
  cases refused

/-! ## Greetings -/

namespace Hello

/-- A platform that was read has the name of its tag, and its own name fits a frame. -/
theorem settled_of_readPlatform {input rest : Bytes} {platform : Platform} {name : String}
    (read : readPlatform input = .ok (platform, name) rest) :
    platform.Canonical ∧ name.utf8ByteSize < 2 ^ 32 ∧ Wire.textSize name ≤ 65535 := by
  simp only [readPlatform, Reader.bind_eq_ok] at read
  obtain ⟨size, _, -, tag, _, -, body, _, taken, read⟩ := read
  obtain ⟨long, -⟩ := Reader.eq_append_of_bytes taken
  have small := size.toNat_lt
  split at read
  · obtain ⟨same, -⟩ := Reader.pure_eq_ok.mp read
    cases same
    exact ⟨Platform.canonical_ofTag tag, by decide, by decide⟩
  · cases named : Reader.text.run body with
    | ok text left =>
      rw [named] at read
      obtain ⟨same, -⟩ := Reader.pure_eq_ok.mp read
      cases same
      obtain ⟨short, fits⟩ := Reader.textSize_le_of_text named
      exact ⟨Platform.canonical_ofTag tag, short, by omega⟩
    | error fault left =>
      rw [named] at read
      cases read

theorem settled_of_read {input rest : Bytes} {hello : Hello}
    (read : Hello.read input = .ok hello rest) :
    hello.version.Packable ∧ hello.Canonical ∧ hello.displayName.utf8ByteSize < 2 ^ 32 ∧
      hello.platformName.utf8ByteSize < 2 ^ 32 ∧ Wire.textSize hello.platformName ≤ 65535 := by
  simp only [Hello.read, Reader.bind_eq_ok, Reader.pure_eq_ok] at read
  obtain ⟨transport, _, -, packed, _, -, displayName, _, named, lastNonce, _, -, language, _,
    spoken, chatMode, _, chats, ⟨platform, platformName⟩, _, plays, rfl, -⟩ := read
  have language : language.Canonical := by
    rcases Reader.of_ifPresent spoken with present | rfl
    · obtain ⟨flag, -, rfl⟩ := Reader.map_eq_ok.mp present
      exact Language.canonical_ofFlag flag
    · exact (by decide : (default : Language).Canonical)
  have chatMode : chatMode.Canonical := by
    rcases Reader.of_ifPresent chats with present | rfl
    · obtain ⟨byte, -, rfl⟩ := Reader.map_eq_ok.mp present
      exact ChatMode.canonical_ofByte byte
    · exact (by decide : (default : ChatMode).Canonical)
  have platform : platform.Canonical ∧ platformName.utf8ByteSize < 2 ^ 32 ∧
      Wire.textSize platformName ≤ 65535 := by
    rcases Reader.of_ifPresent plays with present | usual
    · exact settled_of_readPlatform present
    · cases usual
      exact (by decide : (default : Platform).Canonical ∧ "".utf8ByteSize < 2 ^ 32 ∧
        Wire.textSize "" ≤ 65535)
  exact ⟨ClientVersion.packable_ofPacked packed,
    ⟨ClientVersion.canonical_ofPacked packed, language, chatMode, platform.1⟩,
    (Reader.textSize_le_of_text named).1, platform.2⟩

end Hello

/-! ## Farewells -/

namespace Farewell

theorem settled_of_readBody {input rest : Bytes} {farewell : Farewell}
    (read : readBody input = .ok farewell rest) :
    farewell.reason.Canonical ∧ (∀ text ∈ farewell.message, text.utf8ByteSize < 2 ^ 32) ∧
      1 + (farewell.message.map Wire.textSize).getD 0 ≤ max 1 input.length := by
  have none (reason : DisconnectReason) (canonical : reason.Canonical) :
      (plain reason).reason.Canonical ∧
        (∀ text ∈ (plain reason).message, text.utf8ByteSize < 2 ^ 32) ∧
        1 + ((plain reason).message.map Wire.textSize).getD 0 ≤ max 1 input.length :=
    ⟨canonical, nofun, Nat.le_max_left _ _⟩
  rw [readBody, Reader.bind_eq_ok] at read
  obtain ⟨_, _, measured, read⟩ := read
  cases measured
  split at read
  · obtain ⟨rfl, -⟩ := Reader.pure_eq_ok.mp read
    exact none .none (by decide)
  simp only [Reader.bind_eq_ok] at read
  obtain ⟨byte, left, first, _, _, measured, read⟩ := read
  cases measured
  split at read
  · obtain ⟨rfl, -⟩ := Reader.pure_eq_ok.mp read
    exact none _ (DisconnectReason.canonical_ofByte byte)
  · obtain ⟨text, _, said, read⟩ := Reader.bind_eq_ok.mp read
    obtain ⟨rfl, -⟩ := Reader.pure_eq_ok.mp read
    obtain ⟨short, fits⟩ := Reader.textSize_le_of_text said
    refine ⟨DisconnectReason.canonical_ofByte byte, ?_, ?_⟩
    · rintro _ ⟨⟩
      exact short
    · rw [Reader.u8_eq_ok.mp first, List.length_cons]
      show 1 + Wire.textSize text ≤ _
      omega

/-- A farewell that was read fits the frame that it came in. -/
theorem settled_of_read {input rest : Bytes} {farewell : Farewell}
    (read : Farewell.read input = .ok (some farewell) rest) :
    farewell.reason.Canonical ∧ (∀ text ∈ farewell.message, text.utf8ByteSize < 2 ^ 32) ∧
      1 + (farewell.message.map Wire.textSize).getD 0 ≤ 65535 := by
  rw [Farewell.read, Reader.bind_eq_ok] at read
  obtain ⟨_, _, measured, read⟩ := read
  cases measured
  split at read
  · cases (Reader.pure_eq_ok.mp read).1
  simp only [Reader.bind_eq_ok] at read
  obtain ⟨_, left, -, _, _, measured, read⟩ := read
  cases measured
  split at read
  · cases (Reader.pure_eq_ok.mp read).1
  simp only [Reader.bind_eq_ok] at read
  obtain ⟨size, _, -, _, _, -, body, _, taken, read⟩ := read
  obtain ⟨long, -⟩ := Reader.eq_append_of_bytes taken
  have small := size.toNat_lt
  cases said : readBody.run body with
  | ok told behind =>
    rw [said] at read
    cases (Reader.pure_eq_ok.mp read).1
    obtain ⟨canonical, short, fits⟩ := settled_of_readBody said
    exact ⟨canonical, short, by omega⟩
  | error fault behind =>
    rw [said] at read
    cases read

end Farewell

/-! ## Packets -/

namespace Packet

/-- Nothing stands in the way of writing a packet and reading it back. -/
structure Settled (packet : Packet) : Prop where
  packable : packet.Packable
  short : ∀ text ∈ packet.texts, text.utf8ByteSize < 2 ^ 32
  fits : ∀ field, ¬ packet.Exceeds field
  canonical : packet.Canonical

theorem Settled.exists_write {packet : Packet} (settled : packet.Settled) :
    ∃ bytes, packet.encode = .ok bytes ∧ packet.write = .ok (.ok bytes) ∧
      decode bytes = .ok packet := by
  cases written : packet.encode with
  | error fault =>
    obtain ⟨field, -, large⟩ := (encode_eq_error_iff settled.short).mp written
    exact absurd large (settled.fits field)
  | ok bytes =>
    refine ⟨bytes, rfl, ?_, ?_⟩
    · rw [write, if_pos settled.packable, written]
    · rw [decode_encode settled.short written, normal_eq_self_iff.mpr settled.canonical]

/-- A datagram that can be decoded is the byte of a kind and what its reader accepts. -/
theorem decode_eq_ok {bytes : Bytes} {packet : Packet} (read : decode bytes = .ok packet) :
    ∃ kind body rest, bytes = kind.tag :: body ∧ readBody kind body = .ok packet rest := by
  cases bytes with
  | nil => cases read
  | cons tag body =>
    cases named : PacketKind.ofTag tag with
    | error fault =>
      rw [decode, PacketKind.peek, named] at read
      cases read
    | ok kind =>
      rw [PacketKind.eq_tag_of_ofTag named] at read ⊢
      rw [decode_tag_cons, Reader.decode] at read
      cases taken : (readBody kind).run body with
      | error fault rest =>
        rw [taken] at read
        cases read
      | ok found rest =>
        rw [taken] at read
        cases read
        exact ⟨kind, body, rest, rfl, taken⟩

/-- A packet without texts is settled if the rest of it is. -/
theorem settled_of_plain {packet : Packet} (packable : packet.Packable)
    (silent : packet.texts = []) (fits : ∀ field, ¬ packet.Exceeds field)
    (canonical : packet.Canonical) : packet.Settled :=
  ⟨packable, by simp [silent], fits, canonical⟩

/-- A packet with a payload that can be written is settled. -/
theorem settled_of_encode {packet : Packet} {payload : Payload} {bytes : Bytes}
    (written : payload.encode = .ok bytes)
    (carries : packet = .unreliable payload ∨ ∃ sequence, packet = .reliable sequence payload) :
    packet.Settled := by
  have fits := Payload.fits_of_encode written
  rcases carries with rfl | ⟨sequence, rfl⟩
  all_goals
    refine settled_of_plain trivial rfl ?_ trivial
    rintro (_ | _ | _) large
    · exact fits large
    · exact large
    · exact large

theorem settled_hello {sequence : Sequence} {greeting : Hello} {input rest : Bytes}
    (read : Hello.read input = .ok greeting rest) : (hello sequence greeting).Settled := by
  obtain ⟨packable, canonical, displayName, platformName, fits⟩ := Hello.settled_of_read read
  refine ⟨packable, ?_, ?_, canonical⟩
  · intro text among
    simp only [texts, List.mem_cons, List.not_mem_nil, or_false] at among
    rcases among with rfl | rfl
    · exact displayName
    · exact platformName
  · rintro (_ | _ | _) large
    · exact large
    · exact absurd large (by show ¬ 65535 < Wire.textSize greeting.platformName; omega)
    · exact large

theorem settled_disconnect {farewell : Option Farewell} {input rest : Bytes}
    (read : Farewell.read input = .ok farewell rest) : (disconnect farewell).Settled := by
  cases farewell with
  | none => exact settled_of_plain trivial rfl (by rintro (_ | _ | _) large <;> exact large) trivial
  | some farewell =>
    obtain ⟨canonical, short, fits⟩ := Farewell.settled_of_read read
    refine ⟨trivial, ?_, ?_, canonical⟩
    · simpa [texts] using short
    · rintro (_ | _ | _) large
      · exact large
      · exact large
      · exact absurd large (Nat.not_lt.mpr fits)

theorem expectEnd_eq_ok {kind : PacketKind} {input rest : Bytes}
    (read : expectEnd kind input = .ok () rest) : input = [] := by
  rw [expectEnd, Reader.bind_eq_ok] at read
  obtain ⟨_, _, measured, read⟩ := read
  cases measured
  split at read
  · cases read
  · rename_i nothing
    simpa using nothing

/-- Whatever is read can be written again, and a payload or a ping is what it is written
as. -/
theorem settled_of_readBody {kind : PacketKind} {body rest : Bytes} {packet : Packet}
    (read : readBody kind body = .ok packet rest) :
    packet.Settled ∧ packet.kind = kind ∧
      (kind = .unreliable ∨ kind = .reliable ∨ kind = .ping → packet.encodeBody = .ok body) := by
  cases kind with
  | unreliable =>
    obtain ⟨payload, framed, rfl⟩ := Reader.map_eq_ok.mp read
    have written := Payload.encode_of_read framed
    exact ⟨settled_of_encode written (.inl rfl), rfl, fun _ => written⟩
  | reliable =>
    simp only [readBody, Reader.bind_eq_ok, Reader.pure_eq_ok] at read
    obtain ⟨sequence, frames, numbered, payload, _, framed, rfl, -⟩ := read
    have written := Payload.encode_of_read framed
    refine ⟨settled_of_encode written (.inr ⟨sequence, rfl⟩), rfl, fun _ => ?_⟩
    rw [encodeBody, written, Reader.eq_append_of_u16be numbered]
    rfl
  | hello =>
    simp only [readBody, Reader.bind_eq_ok, Reader.pure_eq_ok] at read
    obtain ⟨sequence, _, -, greeting, _, greeted, rfl, -⟩ := read
    exact ⟨settled_hello greeted, rfl, fun plain => absurd plain (by decide)⟩
  | disconnect =>
    obtain ⟨farewell, said, rfl⟩ := Reader.map_eq_ok.mp read
    exact ⟨settled_disconnect said, rfl, fun plain => absurd plain (by decide)⟩
  | acknowledge =>
    simp only [readBody, Reader.bind_eq_ok, Reader.pure_eq_ok] at read
    obtain ⟨sequence, _, -, missing, _, -, _, _, -, rfl, -⟩ := read
    exact ⟨settled_of_plain trivial rfl (by rintro (_ | _ | _) large <;> exact large) trivial, rfl,
      fun plain => absurd plain (by decide)⟩
  | ping =>
    simp only [readBody, Reader.bind_eq_ok, Reader.pure_eq_ok] at read
    obtain ⟨sequence, left, numbered, _, _, ends, rfl, -⟩ := read
    refine ⟨settled_of_plain trivial rfl (by rintro (_ | _ | _) large <;> exact large) trivial, rfl,
      fun _ => ?_⟩
    rw [encodeBody, Reader.eq_append_of_u16be numbered, expectEnd_eq_ok ends, List.append_nil]

/-- A datagram is of the kind of the packet that it is decoded as. -/
theorem peek_of_decode {bytes : Bytes} {packet : Packet} (read : decode bytes = .ok packet) :
    PacketKind.peek bytes = .ok packet.kind := by
  obtain ⟨kind, body, rest, rfl, accepted⟩ := decode_eq_ok read
  obtain ⟨-, rfl, -⟩ := settled_of_readBody accepted
  exact PacketKind.ofTag_tag _

/-- Whatever is decoded can be encoded again. What comes of it is a datagram of the same kind
that is decoded as the same packet, and it is the same datagram if the packet is a payload
or a ping. -/
theorem decode_normalises {bytes : Bytes} {packet : Packet}
    (read : decode bytes = .ok packet) :
    ∃ again, packet.write = .ok (.ok again) ∧ decode again = .ok packet ∧
      PacketKind.peek bytes = .ok packet.kind ∧ PacketKind.peek again = .ok packet.kind ∧
      (packet.kind = .unreliable ∨ packet.kind = .reliable ∨ packet.kind = .ping →
        again = bytes) := by
  obtain ⟨kind, body, rest, rfl, accepted⟩ := decode_eq_ok read
  obtain ⟨settled, rfl, same⟩ := settled_of_readBody accepted
  obtain ⟨again, encoded, written, readAgain⟩ := settled.exists_write
  obtain ⟨rewritten, encodedBody, rfl⟩ := Except.map_eq_ok.mp encoded
  refine ⟨_, written, readAgain, PacketKind.ofTag_tag _, PacketKind.ofTag_tag _, fun plain => ?_⟩
  rw [same plain, Except.ok.injEq] at encodedBody
  rw [encodedBody]

/-- A greeting that stops behind the language, the length of its name in two bytes where one
would do. -/
def looseGreeting : Bytes := [8, 0, 7, 1, 0, 0, 0, 0, 0x82, 0x00, 72, 105, 9, 0, 0, 0, 2, 0, 0, 0]

theorem decode_normalises_looseGreeting :
    ∃ packet again, decode looseGreeting = .ok packet ∧ packet.write = .ok (.ok again) ∧
      again ≠ looseGreeting ∧ decode again = .ok packet ∧
      PacketKind.peek looseGreeting = .ok packet.kind ∧ PacketKind.peek again = .ok packet.kind ∧
      (packet.kind = .unreliable ∨ packet.kind = .reliable ∨ packet.kind = .ping →
        again = looseGreeting) := by
  have readable : (decode looseGreeting).toOption.any (fun packet =>
      packet.encode.toOption ≠ some looseGreeting) = true := by decide +kernel
  cases read : decode looseGreeting with
  | error fault =>
    rw [read] at readable
    cases readable
  | ok packet =>
    rw [read] at readable
    have changed : packet.encode.toOption ≠ some looseGreeting := of_decide_eq_true readable
    obtain ⟨again, written, more⟩ := decode_normalises read
    refine ⟨packet, again, rfl, written, ?_, more⟩
    rintro rfl
    rw [write] at written
    split at written
    · exact changed (by rw [Except.ok.inj written]; rfl)
    · cases written

end Packet

end SessionLayer
