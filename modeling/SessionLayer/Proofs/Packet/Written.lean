import SessionLayer.Proofs.Packet.Numbered
import SessionLayer.Proofs.Wire.Texts

/-!
# Packets read back

A packet has a datagram unless a field is larger than its length prefix can say
(`Packet.Exceeds`), and its datagram is read as the normal form of the packet, in which
every value is the one that its number on the wire stands for. So exactly the canonical
packets are read back as they were written: `Packet.decode_write`.
-/

namespace SessionLayer

/-- A field that may be absent is read where its bytes are left. -/
theorem Reader.ifPresent_of_le {α : Type} {size : Nat} {usual : α} {reader : Reader α}
    {input : Bytes} (present : size ≤ input.length) :
    Reader.ifPresent size usual reader input = reader input := by
  show (if size ≤ input.length then reader else pure usual) input = reader input
  rw [if_pos present]

/-- What is read from all of a datagram does not depend on what is left of it. -/
theorem Reader.decode_eq_ok {α : Type} {reader : Reader α} {input : Bytes} {value : α} :
    reader.decode input = .ok value ↔ ∃ rest, reader input = .ok value rest := by
  rw [Reader.decode, EStateM.run]
  cases reader input <;> simp

theorem Reader.decode_of_ok {α : Type} {reader : Reader α} {input rest : Bytes} {value : α}
    (read : reader input = .ok value rest) : reader.decode input = .ok value :=
  Reader.decode_eq_ok.mpr ⟨rest, read⟩

/-! ## Payloads -/

theorem Message.encode_eq_error_iff {message : Message} {fault : WireFault} :
    message.encode = .error fault ↔
      fault = .tooLarge .messageBody ∧ 65535 < message.bytes.length := by
  rw [Message.encode, Message.size_body]
  split
  · simp
    omega
  · simp only [Except.error.injEq]
    grind

/-- Frames cannot be written where one of them cannot. -/
theorem Message.mapM_encode_eq_error_iff {messages : List Message} {fault : WireFault} :
    messages.mapM Message.encode = .error fault ↔
      fault = .tooLarge .messageBody ∧ ∃ message ∈ messages, 65535 < message.bytes.length := by
  induction messages with
  | nil => simp [pure, Except.pure]
  | cons message rest ih =>
    rw [List.mapM_cons]
    cases first : message.encode with
    | error other =>
      obtain ⟨rfl, large⟩ := Message.encode_eq_error_iff.mp first
      simp [bind, Except.bind, large, eq_comm]
    | ok frame =>
      have small : ¬ 65535 < message.bytes.length := fun large => by
        have failed := Message.encode_eq_error_iff.mpr ⟨rfl, large⟩
        rw [first] at failed
        cases failed
      cases others : rest.mapM Message.encode with
      | error other =>
        rw [others, Except.error.injEq] at ih
        simp [bind, Except.bind, small, ih]
      | ok frames =>
        rw [others] at ih
        simpa [bind, Except.bind, pure, Except.pure, small] using ih

theorem Payload.encode_eq_error_iff {payload : Payload} {fault : WireFault} :
    payload.encode = .error fault ↔
      fault = .tooLarge .messageBody ∧
        ∃ message ∈ payload.messages, 65535 < message.bytes.length :=
  Except.map_eq_error.trans Message.mapM_encode_eq_error_iff

/-! ## Greetings -/

namespace Hello

/-- The greeting that is read where this one was written. -/
def normal (hello : Hello) : Hello :=
  { hello with
    version := .ofPacked hello.version.toPacked
    language := .ofFlag hello.language.flag
    chatMode := .ofByte hello.chatMode.byte
    platform := .ofTag hello.platform.tag }

theorem normal_eq_self_iff {hello : Hello} : hello.normal = hello ↔ hello.Canonical := by
  cases hello
  simp only [normal, Canonical, Hello.mk.injEq, ClientVersion.Canonical, Language.Canonical,
    ChatMode.Canonical, Platform.Canonical, true_and, and_true]

theorem encode_eq_error_iff {hello : Hello} {fault : WireFault}
    (short : hello.platformName.utf8ByteSize < 2 ^ 32) :
    hello.encode = .error fault ↔
      fault = .tooLarge .platformName ∧ 65535 < Wire.textSize hello.platformName := by
  unfold encode
  simp only [Wire.length_text short]
  split
  · simp
    omega
  · simp only [Except.error.injEq]
    grind

/-- The frame of the platform is read back, whatever follows it. -/
theorem readPlatform_append (platform : Platform) {name : String}
    (fits : (Wire.text name).length < 65536) (short : name.utf8ByteSize < 2 ^ 32)
    (rest : Bytes) :
    readPlatform (Wire.u16le (UInt16.ofNat (Wire.text name).length) ++
        platform.tag :: (Wire.text name ++ rest)) =
      .ok (.ofTag platform.tag, name) rest := by
  have size : (UInt16.ofNat (Wire.text name).length).toNat = (Wire.text name).length := by
    rw [UInt16.toNat_ofNat', Nat.mod_eq_of_lt fits]
  have read := Reader.text_append short []
  rw [List.append_nil] at read
  have present : Wire.text name ≠ [] := Wire.text_ne_nil short
  rw [readPlatform, Reader.bind_eq_ok]
  refine ⟨_, _, Reader.u16le_append _ _, ?_⟩
  rw [Reader.bind_eq_ok]
  refine ⟨_, _, Reader.u8_eq_ok.mpr rfl, ?_⟩
  simp only [Reader.bind_eq_ok]
  refine ⟨_, _, Reader.bytes_append size.symm rest, ?_⟩
  rw [if_neg (by simp [present]), EStateM.run, read]
  rfl

/-- A greeting is read back in its normal form: all its fields are there, so none is left
at its usual value. -/
theorem read_encode {hello : Hello} {bytes : Bytes} (written : hello.encode = .ok bytes)
    (name : hello.displayName.utf8ByteSize < 2 ^ 32)
    (platformName : hello.platformName.utf8ByteSize < 2 ^ 32) :
    Hello.read bytes = .ok hello.normal [] := by
  simp only [encode] at written
  split at written
  · rename_i fits
    cases written
    have platform := readPlatform_append hello.platform fits platformName []
    simp only [List.append_nil] at platform
    simp only [Hello.read, Reader.bind_eq_ok, Reader.pure_eq_ok, Reader.u8_eq_ok,
      List.cons_append, List.append_assoc]
    refine ⟨_, _, rfl, _, _, Reader.i32le_append _ _, _, _, Reader.text_append name _, ?_⟩
    refine ⟨_, _, (Reader.ifPresent_of_le (by simp)).trans (Reader.u32le_append _ _), ?_⟩
    refine ⟨_, _, (Reader.ifPresent_of_le (by simp)).trans
      (Reader.map_eq_ok.mpr ⟨_, Reader.u32le_append _ _, rfl⟩), ?_⟩
    refine ⟨_, _, (Reader.ifPresent_of_le (by simp)).trans
      (Reader.map_eq_ok.mpr ⟨_, Reader.u8_eq_ok.mpr rfl, rfl⟩), ?_⟩
    exact ⟨_, _, (Reader.ifPresent_of_le (by simp; omega)).trans platform, rfl, rfl⟩
  · cases written

end Hello

/-! ## Farewells -/

namespace Farewell

/-- The farewell that is read where this one was written. -/
def normal (farewell : Farewell) : Farewell :=
  { farewell with reason := .ofByte farewell.reason.byte }

theorem normal_eq_self_iff {farewell : Farewell} :
    farewell.normal = farewell ↔ farewell.reason.Canonical := by
  cases farewell
  simp only [normal, Farewell.mk.injEq, DisconnectReason.Canonical, and_true]

theorem length_body {farewell : Farewell}
    (short : ∀ text ∈ farewell.message, text.utf8ByteSize < 2 ^ 32) :
    farewell.body.length = 1 + (farewell.message.map Wire.textSize).getD 0 := by
  rw [body, List.length_cons, Nat.add_comm]
  cases said : farewell.message with
  | none => rfl
  | some text => exact congrArg (1 + ·) (Wire.length_text (short text said))

theorem encode_eq_error_iff {farewell : Farewell} {fault : WireFault}
    (short : ∀ text ∈ farewell.message, text.utf8ByteSize < 2 ^ 32) :
    farewell.encode = .error fault ↔
      fault = .tooLarge .disconnectMessage ∧
        65535 < 1 + (farewell.message.map Wire.textSize).getD 0 := by
  rw [encode, length_body short]
  split
  · simp
    omega
  · simp only [Except.error.injEq]
    grind

/-- The body of a frame is read back, with an empty text told apart from none. -/
theorem readBody_body {farewell : Farewell}
    (short : ∀ text ∈ farewell.message, text.utf8ByteSize < 2 ^ 32) :
    readBody farewell.body = .ok farewell.normal [] := by
  rcases farewell with ⟨reason, _ | text⟩
  · rfl
  · have read := Reader.text_append (short text rfl) []
    have some : Wire.text text ≠ [] := Wire.text_ne_nil (short text rfl)
    rw [List.append_nil] at read
    have body : (⟨reason, Option.some text⟩ : Farewell).body = reason.byte :: Wire.text text := rfl
    rw [readBody, body, Reader.bind_eq_ok]
    refine ⟨_, _, rfl, ?_⟩
    rw [if_neg (by simp), Reader.bind_eq_ok]
    refine ⟨_, _, rfl, ?_⟩
    simp only [Reader.bind_eq_ok]
    refine ⟨_, _, rfl, ?_⟩
    rw [if_neg (by simpa using some), Reader.bind_eq_ok]
    exact ⟨_, _, read, rfl⟩

theorem read_encode {farewell : Farewell} {bytes : Bytes}
    (written : farewell.encode = .ok bytes)
    (short : ∀ text ∈ farewell.message, text.utf8ByteSize < 2 ^ 32) :
    Farewell.read bytes = .ok (some farewell.normal) [] := by
  unfold encode at written
  split at written
  · rename_i fits
    cases written
    have size : (UInt16.ofNat farewell.body.length).toNat = farewell.body.length := by
      rw [UInt16.toNat_ofNat', Nat.mod_eq_of_lt fits]
    have body := Reader.bytes_append size.symm []
    rw [List.append_nil] at body
    rw [Farewell.read, Reader.bind_eq_ok, List.cons_append]
    refine ⟨_, _, rfl, ?_⟩
    rw [if_neg (by simp), Reader.bind_eq_ok]
    refine ⟨_, _, rfl, ?_⟩
    rw [Reader.bind_eq_ok]
    refine ⟨_, _, rfl, ?_⟩
    rw [if_neg (by simp; omega), Reader.bind_eq_ok]
    refine ⟨_, _, Reader.u16le_append _ _, ?_⟩
    rw [Reader.bind_eq_ok]
    refine ⟨_, _, rfl, ?_⟩
    rw [Reader.bind_eq_ok]
    refine ⟨_, _, body, ?_⟩
    rw [EStateM.run, readBody_body short]
    rfl
  · cases written

end Farewell

/-! ## Packets -/

namespace Packet

/-- The packet that is read where this one was written. -/
def normal : Packet → Packet
  | .hello sequence greeting => .hello sequence greeting.normal
  | .disconnect farewell => .disconnect (farewell.map Farewell.normal)
  | packet => packet

theorem normal_eq_self_iff {packet : Packet} : packet.normal = packet ↔ packet.Canonical := by
  cases packet with
  | hello sequence greeting => simp [normal, Canonical, Hello.normal_eq_self_iff]
  | disconnect farewell =>
    cases farewell <;> simp [normal, Canonical, Farewell.normal_eq_self_iff]
  | _ => simp [normal, Canonical]

/-- The texts in a packet. -/
def texts : Packet → List String
  | .hello _ greeting => [greeting.displayName, greeting.platformName]
  | .disconnect (some farewell) => farewell.message.toList
  | _ => []

/-- This field of the packet is larger than the sixteen bits of its length can say. -/
def Exceeds : Packet → SizedField → Prop
  | .unreliable payload, .messageBody | .reliable _ payload, .messageBody =>
    ∃ message ∈ payload.messages, 65535 < message.bytes.length
  | .hello _ greeting, .platformName => 65535 < Wire.textSize greeting.platformName
  | .disconnect (some farewell), .disconnectMessage =>
    65535 < 1 + (farewell.message.map Wire.textSize).getD 0
  | _, _ => False

/-- A packet cannot be written exactly where one of its fields is too large, and the
refusal names the field. -/
theorem encode_eq_error_iff {packet : Packet}
    (short : ∀ text ∈ packet.texts, text.utf8ByteSize < 2 ^ 32) {fault : WireFault} :
    packet.encode = .error fault ↔ ∃ field, fault = .tooLarge field ∧ packet.Exceeds field := by
  -- Each kind of packet has at most one field that can be too large.
  have single (held : SizedField) (only : ∀ field, packet.Exceeds field → field = held) :
      fault = .tooLarge held ∧ packet.Exceeds held ↔
        ∃ field, fault = .tooLarge field ∧ packet.Exceeds field := by
    constructor
    · rintro ⟨named, large⟩
      exact ⟨held, named, large⟩
    · rintro ⟨field, named, large⟩
      rw [only field large] at named large
      exact ⟨named, large⟩
  refine Except.map_eq_error.trans ?_
  cases packet with
  | unreliable payload =>
    exact Payload.encode_eq_error_iff.trans
      (single .messageBody fun field => by cases field <;> simp [Exceeds])
  | reliable sequence payload =>
    exact (Except.map_eq_error.trans Payload.encode_eq_error_iff).trans
      (single .messageBody fun field => by cases field <;> simp [Exceeds])
  | hello sequence greeting =>
    exact (Except.map_eq_error.trans
      (Hello.encode_eq_error_iff (short _ (by simp [texts])))).trans
      (single .platformName fun field => by cases field <;> simp [Exceeds])
  | disconnect farewell =>
    cases farewell with
    | none => simp [encodeBody, Exceeds]
    | some farewell =>
      exact (Farewell.encode_eq_error_iff
        fun text said => short text (by simpa [texts] using said)).trans
        (single .disconnectMessage fun field => by cases field <;> simp [Exceeds])
  | acknowledge sequence missing => simp [encodeBody, Exceeds]
  | ping sequence => simp [encodeBody, Exceeds]

/-- What is written is read back in its normal form. -/
theorem decode_encode {packet : Packet} {bytes : Bytes}
    (short : ∀ text ∈ packet.texts, text.utf8ByteSize < 2 ^ 32)
    (written : packet.encode = .ok bytes) : decode bytes = .ok packet.normal := by
  cases packet with
  | unreliable payload =>
    obtain ⟨body, encoded, rfl⟩ := Except.map_eq_ok.mp written
    exact (decode_tag_cons .unreliable body).trans
      (Reader.decode_of_ok (Reader.map_eq_ok.mpr ⟨_, Payload.read_encode encoded, rfl⟩))
  | reliable sequence payload => exact decode_reliable written
  | hello sequence greeting =>
    obtain ⟨body, encoded, rfl⟩ := Except.map_eq_ok.mp written
    obtain ⟨rest, greeted, rfl⟩ := Except.map_eq_ok.mp encoded
    have read := Hello.read_encode greeted (short _ (by simp [texts])) (short _ (by simp [texts]))
    have whole : readBody .hello (Wire.u16be sequence ++ rest) =
        .ok (.hello sequence greeting.normal) [] := by
      simp only [readBody, Reader.bind_eq_ok, Reader.pure_eq_ok]
      exact ⟨_, _, Reader.u16be_append _ _, _, _, read, rfl, rfl⟩
    exact (decode_tag_cons .hello _).trans (Reader.decode_of_ok whole)
  | disconnect farewell =>
    obtain ⟨body, encoded, rfl⟩ := Except.map_eq_ok.mp written
    refine (decode_tag_cons .disconnect body).trans ?_
    cases farewell with
    | none =>
      cases encoded
      rfl
    | some farewell =>
      have read := Farewell.read_encode encoded fun text said =>
        short text (by simpa [texts] using said)
      exact Reader.decode_of_ok (Reader.map_eq_ok.mpr ⟨_, read, rfl⟩)
  | acknowledge sequence missing =>
    cases written
    exact decode_acknowledge sequence missing
  | ping sequence =>
    cases written
    exact decode_ping sequence

/-- A packet whose texts can be counted in thirty-two bits has a datagram unless one of its
fields is too large, and the datagram is read as this packet exactly if the packet is
canonical. -/
theorem decode_write {packet : Packet} (packable : packet.Packable)
    (short : ∀ text ∈ packet.texts, text.utf8ByteSize < 2 ^ 32) :
    ∃ written, packet.write = .ok written ∧
      (∀ fault, written = .error fault ↔ ∃ field, fault = .tooLarge field ∧ packet.Exceeds field) ∧
      ∀ bytes, written = .ok bytes → (decode bytes = .ok packet ↔ packet.Canonical) := by
  refine ⟨packet.encode, if_pos packable, fun fault => encode_eq_error_iff short,
    fun bytes written => ?_⟩
  rw [decode_encode short written, Except.ok.injEq, normal_eq_self_iff]

/-- A greeting that leaves no field at its usual value. -/
def fullGreeting : Packet :=
  .hello 7
    { transport := 2, version := ⟨2021, 6, 30, 1⟩, displayName := "Zoë", lastNonce := 9
      language := .german, chatMode := .quickChat, platform := .steamPc, platformName := "Steam" }

theorem decode_write_fullGreeting :
    fullGreeting.Packable ∧ (∀ text ∈ fullGreeting.texts, text.utf8ByteSize < 2 ^ 32) ∧
      fullGreeting.Canonical ∧
      ∃ written, fullGreeting.write = .ok written ∧
        (∀ fault, written = .error fault ↔
          ∃ field, fault = .tooLarge field ∧ fullGreeting.Exceeds field) ∧
        ∀ bytes, written = .ok bytes →
          (decode bytes = .ok fullGreeting ↔ fullGreeting.Canonical) := by
  have packable : fullGreeting.Packable := by decide
  have short : ∀ text ∈ fullGreeting.texts, text.utf8ByteSize < 2 ^ 32 := by decide
  exact ⟨packable, short, by decide, decode_write packable short⟩

end Packet

end SessionLayer
