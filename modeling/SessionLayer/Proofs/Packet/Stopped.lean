import SessionLayer.Proofs.Packet.Written

/-!
# Greetings that stop early

Each field behind the name of a greeting is read where enough bytes are left for it,
whether or not the field before it was. A greeting that is cut short behind its name is
accepted until its platform has begun, and keeps the fields that are there as a whole. But
one byte is enough for the way of chatting: where the nonce or the language is cut off, its
first byte is read as that (`Hello.strayByte?`), so the greeting is the one that was begun
only if this byte stands for the usual way of chatting: `Packet.decode_take_iff`.
-/

namespace SessionLayer

/-- A field keeps its usual value where its bytes are not left. -/
theorem Reader.ifPresent_of_lt {α : Type} {size : Nat} {usual : α} {reader : Reader α}
    {input : Bytes} (absent : input.length < size) :
    Reader.ifPresent size usual reader input = .ok usual input := by
  show (if size ≤ input.length then reader else pure usual) input = .ok usual input
  rw [if_neg (Nat.not_le.mpr absent)]
  rfl

namespace Hello

variable {hello : Hello}

/-! ## The two parts of a greeting -/

/-- The bytes of a greeting up to the end of its name. -/
def front (hello : Hello) : Bytes :=
  hello.transport :: Wire.i32le hello.version.toPacked ++ Wire.text hello.displayName

/-- The bytes of the fields behind the name. -/
def fields (hello : Hello) : Bytes :=
  Wire.u32le hello.lastNonce ++ (Wire.u32le hello.language.flag ++
    (hello.chatMode.byte :: (Wire.u16le (UInt16.ofNat (Wire.text hello.platformName).length) ++
      hello.platform.tag :: Wire.text hello.platformName)))

theorem encode_eq_ok {bytes : Bytes} :
    hello.encode = .ok bytes ↔
      (Wire.text hello.platformName).length < 65536 ∧ bytes = hello.front ++ hello.fields := by
  simp only [encode]
  split
  · rename_i fits
    simp [fits, front, fields, eq_comm]
  · rename_i large
    simp [large]

/-- A greeting with nothing behind its name. -/
def named (hello : Hello) : Hello :=
  { brief hello.version hello.displayName with transport := hello.transport }

/-- Reads the fields behind the name, where the greeting has its usual values so far. -/
def readFields (usual : Hello) : Reader Hello := do
  let lastNonce ← Reader.ifPresent 4 usual.lastNonce Reader.u32le
  let language ← Reader.ifPresent 4 usual.language (Language.ofFlag <$> Reader.u32le)
  let chatMode ← Reader.ifPresent 1 usual.chatMode (ChatMode.ofByte <$> Reader.u8)
  let (platform, platformName) ←
    Reader.ifPresent 3 (usual.platform, usual.platformName) readPlatform
  return { usual with lastNonce, language, chatMode, platform, platformName }

/-- A canonical build and a name that is not too long are read back, and the fields are
read from what follows. -/
theorem read_front_append (canonical : hello.Canonical)
    (short : hello.displayName.utf8ByteSize < 2 ^ 32) (rest : Bytes) :
    Hello.read (hello.front ++ rest) = readFields hello.named rest := by
  have version : ClientVersion.ofPacked hello.version.toPacked = hello.version := canonical.1
  have number := Reader.i32le_append hello.version.toPacked (Wire.text hello.displayName ++ rest)
  have text := Reader.text_append short rest
  simp only [front, List.cons_append, List.append_assoc, Hello.read, bind, EStateM.bind, Reader.u8,
    number, text, version]
  rfl

/-! ## Fields that are cut short -/

/-- What a greeting says if only so many bytes of its fields are there: each field that is
there as a whole, and the usual values of the others. -/
def upTo (hello : Hello) (held : Nat) : Hello :=
  { hello.named with
    lastNonce := if 4 ≤ held then hello.lastNonce else hello.named.lastNonce
    language := if 8 ≤ held then hello.language else hello.named.language
    chatMode := if 9 ≤ held then hello.chatMode else hello.named.chatMode
    platform := if hello.fields.length ≤ held then hello.platform else hello.named.platform
    platformName :=
      if hello.fields.length ≤ held then hello.platformName else hello.named.platformName }

/-- The byte that is read as the way of chatting though it belongs to a field before it, of
which other bytes are missing. -/
def strayByte? (hello : Hello) (held : Nat) : Option UInt8 :=
  if 0 < held ∧ held < 4 then (Wire.u32le hello.lastNonce).head?
  else if 4 < held ∧ held < 8 then (Wire.u32le hello.language.flag).head?
  else none

/-- The greeting that is read from so many bytes of the fields. -/
def readAs (hello : Hello) (held : Nat) : Hello :=
  { hello.upTo held with
    chatMode := ((hello.strayByte? held).map ChatMode.ofByte).getD (hello.upTo held).chatMode }

theorem readAs_eq_upTo_iff {held : Nat} :
    hello.readAs held = hello.upTo held ↔
      ∀ byte ∈ hello.strayByte? held, ChatMode.ofByte byte = default := by
  have usual : ∀ byte ∈ hello.strayByte? held, (hello.upTo held).chatMode = default := by
    intro byte stray
    have early : ¬ 9 ≤ held := by
      intro late
      rw [strayByte?, if_neg (by omega), if_neg (by omega)] at stray
      cases stray
    exact if_neg early
  cases stray : hello.strayByte? held with
  | none => simp [readAs, stray]
  | some byte =>
    have same := usual byte stray
    simp only [readAs, stray, Option.map_some, Option.getD_some, Option.mem_some_iff, forall_eq']
    constructor
    · intro eq
      rw [← same, ← eq]
    · intro eq
      rw [eq, ← same]

/-- Of up to three bytes, the first is read as the way of chatting. -/
theorem readFields_of_few {usual : Hello} {input : Bytes} (few : input.length < 4) :
    readFields usual input =
      .ok { usual with chatMode := (input.head?.map ChatMode.ofByte).getD usual.chatMode }
        input.tail := by
  have none {α : Type} {value : α} {reader : Reader α} :
      Reader.ifPresent 4 value reader input = .ok value input := Reader.ifPresent_of_lt few
  have chat : Reader.ifPresent 1 usual.chatMode (ChatMode.ofByte <$> Reader.u8) input =
      .ok ((input.head?.map ChatMode.ofByte).getD usual.chatMode) input.tail := by
    cases input with
    | nil => exact Reader.ifPresent_of_lt (by decide)
    | cons byte rest => exact Reader.ifPresent_of_le (by simp)
  have platform : input.tail.length < 3 := by
    rw [List.length_tail]
    omega
  simp only [readFields, Reader.bind_eq_ok]
  exact ⟨_, _, none, _, _, none, _, _, chat, _, _, Reader.ifPresent_of_lt platform, rfl⟩

/-- A nonce is read, and nothing shorter than a field of four bytes as the language. -/
theorem readFields_nonce_append (usual : Hello) (nonce : UInt32) {input : Bytes}
    (few : input.length < 4) :
    readFields usual (Wire.u32le nonce ++ input) =
      readFields { usual with lastNonce := nonce } input := by
  have read : Reader.ifPresent 4 usual.lastNonce Reader.u32le (Wire.u32le nonce ++ input) =
      .ok nonce input :=
    (Reader.ifPresent_of_le (by simp)).trans (Reader.u32le_append nonce input)
  have none : Reader.ifPresent 4 nonce Reader.u32le input = .ok nonce input :=
    Reader.ifPresent_of_lt few
  simp only [readFields, bind, EStateM.bind, read, none]

/-- A nonce and a language are read. -/
theorem readFields_language_append (usual : Hello) (nonce flag : UInt32) {input : Bytes}
    (few : input.length < 4) :
    readFields usual (Wire.u32le nonce ++ (Wire.u32le flag ++ input)) =
      readFields { usual with lastNonce := nonce, language := .ofFlag flag } input := by
  have first (rest : Bytes) :
      Reader.ifPresent 4 usual.lastNonce Reader.u32le (Wire.u32le nonce ++ rest) =
        .ok nonce rest :=
    (Reader.ifPresent_of_le (by simp)).trans (Reader.u32le_append nonce rest)
  have second :
      Reader.ifPresent 4 usual.language (Language.ofFlag <$> Reader.u32le)
        (Wire.u32le flag ++ input) = .ok (.ofFlag flag) input :=
    (Reader.ifPresent_of_le (by simp)).trans
      (Reader.map_eq_ok.mpr ⟨_, Reader.u32le_append flag input, rfl⟩)
  have none {α : Type} {value : α} {reader : Reader α} :
      Reader.ifPresent 4 value reader input = .ok value input := Reader.ifPresent_of_lt few
  simp only [readFields, bind, EStateM.bind, first, second, none]

/-- A platform whose frame is cut short is refused. -/
theorem readPlatform_take {platform : Platform} {name : Bytes} (fits : name.length < 65536)
    {held : Nat} (cut : held < name.length) (found : Platform × String) (rest : Bytes) :
    readPlatform (Wire.u16le (UInt16.ofNat name.length) ++ platform.tag :: name.take held) ≠
      .ok found rest := by
  have size : (UInt16.ofNat name.length).toNat = name.length := by
    rw [UInt16.toNat_ofNat', Nat.mod_eq_of_lt fits]
  intro read
  simp only [readPlatform, Reader.bind_eq_ok, Reader.u16le_append, EStateM.Result.ok.injEq,
    Reader.u8_eq_ok, Reader.bytes_eq_ok] at read
  obtain ⟨_, _, ⟨rfl, rfl⟩, _, _, same, _, _, ⟨enough, -⟩, -⟩ := read
  cases same
  rw [size, List.length_take] at enough
  omega

/-! ## The first bytes of the fields -/

theorem take_fields_of_le_four {held : Nat} (within : held ≤ 4) :
    hello.fields.take held = (Wire.u32le hello.lastNonce).take held :=
  List.take_append_of_le_length (by rwa [Wire.length_u32le])

theorem take_fields_of_le_eight {held : Nat} (beyond : 4 ≤ held) (within : held ≤ 8) :
    hello.fields.take held =
      Wire.u32le hello.lastNonce ++ (Wire.u32le hello.language.flag).take (held - 4) := by
  rw [fields, List.take_append, Wire.length_u32le, List.take_of_length_le (by simpa using beyond),
    List.take_append_of_le_length (by rw [Wire.length_u32le]; omega)]

theorem take_fields_of_le_eleven {held : Nat} (beyond : 8 ≤ held) (within : held ≤ 11) :
    hello.fields.take held =
      Wire.u32le hello.lastNonce ++ (Wire.u32le hello.language.flag ++
        (hello.chatMode.byte ::
          Wire.u16le (UInt16.ofNat (Wire.text hello.platformName).length)).take (held - 8)) := by
  rw [fields, List.take_append, Wire.length_u32le,
    List.take_of_length_le (by rw [Wire.length_u32le]; omega), List.take_append,
    Wire.length_u32le, List.take_of_length_le (by rw [Wire.length_u32le]; omega),
    ← List.cons_append, List.take_append_of_le_length (by simp; omega), Nat.sub_sub]

theorem take_fields_of_twelve_le {held : Nat} (beyond : 12 ≤ held) :
    hello.fields.take held =
      Wire.u32le hello.lastNonce ++ (Wire.u32le hello.language.flag ++
        (hello.chatMode.byte ::
          (Wire.u16le (UInt16.ofNat (Wire.text hello.platformName).length) ++
            hello.platform.tag :: (Wire.text hello.platformName).take (held - 12)))) := by
  obtain ⟨behind, rfl⟩ := Nat.exists_eq_add_of_le beyond
  have chat : 12 + behind - 4 - 4 = behind + 1 + 2 + 1 := by omega
  have tag : behind + 1 + 2 - 2 = behind + 1 := by omega
  rw [fields, List.take_append, Wire.length_u32le,
    List.take_of_length_le (by rw [Wire.length_u32le]; omega), List.take_append,
    Wire.length_u32le, List.take_of_length_le (by rw [Wire.length_u32le]; omega), chat,
    List.take_succ_cons, List.take_append, Wire.length_u16le,
    List.take_of_length_le (by rw [Wire.length_u16le]; omega), tag, List.take_succ_cons,
    Nat.add_sub_cancel_left]

/-- While the platform has not begun, the fields are read from their first bytes. -/
theorem readFields_take (canonical : hello.Canonical) {held : Nat} (early : held < 12) :
    ∃ rest, readFields hello.named (hello.fields.take held) = .ok (hello.readAs held) rest := by
  have language : Language.ofFlag hello.language.flag = hello.language := canonical.2.1
  have chatMode : ChatMode.ofByte hello.chatMode.byte = hello.chatMode := canonical.2.2.1
  have long : ¬ hello.fields.length ≤ held := by
    simp only [fields, List.length_append, List.length_cons, Wire.length_u32le, Wire.length_u16le]
    omega
  -- Behind the last field of four bytes that is there as a whole fewer than four are left, and
  -- the first of them is read as the way of chatting, whichever field it belongs to.
  rcases Nat.lt_or_ge held 4 with noNonce | nonce
  · have absent : ¬ 4 ≤ held ∧ ¬ 8 ≤ held ∧ ¬ 9 ≤ held := by omega
    rw [take_fields_of_le_four (Nat.le_of_lt noNonce),
      readFields_of_few (by rw [List.length_take]; omega), List.head?_take]
    refine ⟨_, congrArg (EStateM.Result.ok · _) ?_⟩
    rcases Nat.eq_zero_or_pos held with rfl | some
    · simp [readAs, upTo, strayByte?, long, named]
    · simp [readAs, upTo, strayByte?, long, absent, noNonce, some, Nat.ne_of_gt some, named]
  rcases Nat.lt_or_ge held 8 with noLanguage | flag
  · have absent : ¬ 8 ≤ held ∧ ¬ 9 ≤ held ∧ ¬ held < 4 := by omega
    have few : ((Wire.u32le hello.language.flag).take (held - 4)).length < 4 := by
      rw [List.length_take]
      omega
    rw [take_fields_of_le_eight nonce (Nat.le_of_lt noLanguage), readFields_nonce_append _ _ few,
      readFields_of_few few, List.head?_take]
    refine ⟨_, congrArg (EStateM.Result.ok · _) ?_⟩
    rcases Nat.eq_or_lt_of_le nonce with rfl | some
    · simp [readAs, upTo, strayByte?, long, named]
    · simp [readAs, upTo, strayByte?, long, absent, noLanguage, nonce, some,
        Nat.sub_ne_zero_of_lt some, named]
  · have present : ¬ held < 8 ∧ ¬ held < 4 := by omega
    have few : ((hello.chatMode.byte ::
        Wire.u16le (UInt16.ofNat (Wire.text hello.platformName).length)).take
          (held - 8)).length < 4 := by
      rw [List.length_take]
      omega
    rw [take_fields_of_le_eleven flag (Nat.le_of_lt_succ early),
      readFields_language_append _ _ _ few, readFields_of_few few, List.head?_take]
    refine ⟨_, congrArg (EStateM.Result.ok · _) ?_⟩
    rcases Nat.eq_or_lt_of_le flag with rfl | some
    · simp [readAs, upTo, strayByte?, long, named, language]
    · simp [readAs, upTo, strayByte?, long, present, flag, nonce, Nat.succ_le_of_lt some,
        Nat.sub_ne_zero_of_lt some, named, language, chatMode]

/-- Once the platform has begun, its frame is there as a whole or the greeting is refused. -/
theorem readFields_take_ne_ok (fits : (Wire.text hello.platformName).length < 65536)
    {held : Nat} (begun : 12 ≤ held) (proper : held < hello.fields.length) (found : Hello)
    (rest : Bytes) : readFields hello.named (hello.fields.take held) ≠ .ok found rest := by
  have cut : held - 12 < (Wire.text hello.platformName).length := by
    simp only [fields, List.length_append, List.length_cons, Wire.length_u32le,
      Wire.length_u16le] at proper
    omega
  rw [take_fields_of_twelve_le begun]
  intro read
  simp only [readFields, Reader.bind_eq_ok] at read
  obtain ⟨_, _, nonce, _, _, language, _, _, chat, _, _, platform, -⟩ := read
  -- The three fields in front are there, so the frame is read where it begins.
  rw [Reader.ifPresent_of_le (by simp), Reader.u32le_append] at nonce
  cases nonce
  rw [Reader.ifPresent_of_le (by simp), Reader.map_eq_ok] at language
  obtain ⟨_, flag, rfl⟩ := language
  rw [Reader.u32le_append] at flag
  cases flag
  rw [Reader.ifPresent_of_le (by simp), Reader.map_eq_ok] at chat
  obtain ⟨_, byte, rfl⟩ := chat
  cases byte
  rw [Reader.ifPresent_of_le (by simp; omega)] at platform
  exact readPlatform_take fits cut _ _ platform

/-- How many bytes of its datagram a greeting takes up to the end of its name. -/
def nameEnd (hello : Hello) : Nat := 3 + hello.front.length

end Hello

namespace Packet

theorem length_of_encode_hello {sequence : Sequence} {hello : Hello} {bytes : Bytes}
    (written : (Packet.hello sequence hello).encode = .ok bytes) :
    (Wire.text hello.platformName).length < 65536 ∧
      bytes.length = hello.nameEnd + hello.fields.length := by
  obtain ⟨body, encoded, rfl⟩ := Except.map_eq_ok.mp written
  obtain ⟨rest, greeted, rfl⟩ := Except.map_eq_ok.mp encoded
  obtain ⟨fits, rfl⟩ := Hello.encode_eq_ok.mp greeted
  refine ⟨fits, ?_⟩
  rw [List.length_cons, List.length_append, List.length_append, Wire.length_u16be, Hello.nameEnd]
  omega

/-- A greeting that is cut short behind its name is read from the part of its fields that is
left. -/
theorem decode_take_hello {sequence : Sequence} {hello : Hello} {bytes : Bytes} {held : Nat}
    (written : (Packet.hello sequence hello).encode = .ok bytes)
    (canonical : hello.Canonical) (short : hello.displayName.utf8ByteSize < 2 ^ 32) :
    decode (bytes.take (hello.nameEnd + held)) =
      (Packet.hello sequence <$> Hello.readFields hello.named).decode
        (hello.fields.take held) := by
  obtain ⟨body, encoded, rfl⟩ := Except.map_eq_ok.mp written
  obtain ⟨rest, greeted, rfl⟩ := Except.map_eq_ok.mp encoded
  obtain ⟨-, rfl⟩ := Hello.encode_eq_ok.mp greeted
  have place : hello.nameEnd + held = 2 + (hello.front.length + held) + 1 := by
    rw [Hello.nameEnd]
    omega
  rw [place, List.take_succ_cons, ← Wire.length_u16be sequence, List.take_length_add_append,
    List.take_length_add_append]
  refine (decode_tag_cons .hello _).trans ?_
  simp only [Reader.decode, EStateM.run, readBody, bind, EStateM.bind, Functor.map, EStateM.map,
    Reader.u16be_append, Hello.read_front_append canonical short]
  cases Hello.readFields hello.named (hello.fields.take held) <;> rfl

/-- A greeting that is cut short behind its name is accepted exactly while its platform has
not begun, and what is read from it is `Hello.readAs`. That is the greeting with every field
that is there as a whole and the usual values of the others, except for a stray byte that
stands for another way of chatting than the usual one. -/
theorem decode_take_iff {sequence : Sequence} {hello : Hello} {bytes : Bytes} {cut : Nat}
    (written : (Packet.hello sequence hello).write = .ok (.ok bytes))
    (canonical : hello.Canonical) (short : hello.displayName.utf8ByteSize < 2 ^ 32)
    (named : hello.nameEnd ≤ cut) (proper : cut < bytes.length) :
    (∀ packet, decode (bytes.take cut) = .ok packet ↔
      cut < hello.nameEnd + 12 ∧ packet = .hello sequence (hello.readAs (cut - hello.nameEnd))) ∧
    ∀ packet, decode (bytes.take cut) = .ok packet →
      (packet = .hello sequence (hello.upTo (cut - hello.nameEnd)) ↔
        ∀ byte ∈ hello.strayByte? (cut - hello.nameEnd), ChatMode.ofByte byte = default) := by
  obtain ⟨held, rfl⟩ := Nat.exists_eq_add_of_le named
  rw [Nat.add_sub_cancel_left]
  have encoded : (Packet.hello sequence hello).encode = .ok bytes := by
    rw [write] at written
    split at written
    · exact Except.ok.inj written
    · cases written
  obtain ⟨fits, size⟩ := length_of_encode_hello encoded
  have reads : ∀ packet, decode (bytes.take (hello.nameEnd + held)) = .ok packet ↔
      hello.nameEnd + held < hello.nameEnd + 12 ∧ packet = .hello sequence (hello.readAs held) := by
    intro packet
    rw [decode_take_hello encoded canonical short, Nat.add_lt_add_iff_left]
    rcases Nat.lt_or_ge held 12 with early | begun
    · obtain ⟨rest, read⟩ := Hello.readFields_take canonical early
      rw [Reader.decode_of_ok (Reader.map_eq_ok.mpr ⟨_, read, rfl⟩), Except.ok.injEq,
        and_iff_right early, eq_comm]
    · refine iff_of_false (fun accepted => ?_) (fun both => Nat.not_lt.mpr begun both.1)
      obtain ⟨rest, read⟩ := Reader.decode_eq_ok.mp accepted
      obtain ⟨found, read, -⟩ := Reader.map_eq_ok.mp read
      exact Hello.readFields_take_ne_ok fits begun (by omega) found rest read
  refine ⟨reads, fun packet read => ?_⟩
  rw [((reads packet).mp read).2, Packet.hello.injEq, and_iff_right rfl, Hello.readAs_eq_upTo_iff]

/-- A greeting whose nonce begins with the byte of the quick chat. -/
def quickNonce : Hello :=
  { Hello.brief ⟨2021, 6, 30, 1⟩ "Zoë" with lastNonce := 2, platformName := "PC" }

/-- The datagram of that greeting. -/
def quickNonceDatagram : Bytes :=
  [0x08, 0x00, 0x07, 0x01, 0x55, 0x23, 0x03, 0x03, 0x04, 0x5a, 0x6f, 0xc3, 0xab, 0x02, 0x00,
   0x00, 0x00, 0x00, 0x01, 0x00, 0x00, 0x01, 0x03, 0x00, 0x00, 0x02, 0x50, 0x43]

theorem decode_take_iff_quickNonce :
    (Packet.hello 7 quickNonce).write = .ok (.ok quickNonceDatagram) ∧ quickNonce.Canonical ∧
      quickNonce.displayName.utf8ByteSize < 2 ^ 32 ∧ quickNonce.nameEnd ≤ 14 ∧
      14 < quickNonceDatagram.length ∧ quickNonce.strayByte? (14 - quickNonce.nameEnd) = some 2 ∧
      decode (quickNonceDatagram.take 14) =
        .ok (.hello 7 { Hello.brief ⟨2021, 6, 30, 1⟩ "Zoë" with chatMode := .quickChat }) := by
  have greeted : quickNonce.encode = .ok (quickNonce.front ++ quickNonce.fields) :=
    Hello.encode_eq_ok.mpr ⟨by decide, rfl⟩
  have bytes : PacketKind.hello.tag :: (Wire.u16be 7 ++ (quickNonce.front ++ quickNonce.fields)) =
      quickNonceDatagram := by decide
  have written : (Packet.hello 7 quickNonce).write = .ok (.ok quickNonceDatagram) := by
    rw [write, if_pos (by decide), encode, encodeBody, greeted, ← bytes]
    rfl
  have canonical : quickNonce.Canonical := by decide
  have short : quickNonce.displayName.utf8ByteSize < 2 ^ 32 := by decide
  have named : quickNonce.nameEnd ≤ 14 := by decide
  have reads := (decode_take_iff written canonical short named (by decide)).1
  exact ⟨written, canonical, short, named, by decide, by decide,
    (reads _).mpr ⟨by decide, by decide⟩⟩

end Packet

end SessionLayer
