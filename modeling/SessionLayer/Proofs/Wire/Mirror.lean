import SessionLayer.Proofs.Wire.Groups

/-!
# Reading mirrors writing

A reader mirrors the way a value is written if it takes the value back from its bytes,
leaves whatever follows them, and is cut short by bytes that end before the value does
(`Reader.Mirrors`). One mirror behind the other is a mirror of both, so each primitive needs
one lemma and a list of fields of any types follows by induction: `Field.read_back`. A text is
the one field with a limit, since its length has thirty-two bits.
-/

namespace SessionLayer

/-- The bytes of fields, one behind the other. -/
def Field.encodeAll (fields : List Field) : Bytes := fields.flatMap Field.encode

/-- Reads fields of these types, one behind the other. -/
def FieldType.readAll : List FieldType → Reader (List Field)
  | [] => return []
  | type :: types => do return (← type.read) :: (← readAll types)

/-! ## Bytes that end too early -/

/-- Bytes of which some are missing at the end are cut either inside the front or behind it. -/
theorem Wire.cut_append {front written more : Bytes} (part : front <+: written ++ more)
    (short : front ≠ written ++ more) :
    (front <+: written ∧ front ≠ written) ∨
      ∃ back, front = written ++ back ∧ back <+: more ∧ back ≠ more := by
  obtain ⟨lost, whole⟩ := part
  rcases List.append_eq_append_iff.mp whole with ⟨rest, split, -⟩ | ⟨back, rfl, rfl⟩
  · by_cases same : front = written
    · exact .inr ⟨[], by rw [same, List.append_nil], List.nil_prefix,
        fun none => short (by rw [same, ← none, List.append_nil])⟩
    · exact .inl ⟨⟨rest, split.symm⟩, same⟩
  · exact .inr ⟨back, rfl, List.prefix_append back lost,
      fun same => short (by rw [← same])⟩

theorem Wire.length_lt_of_cut {front written : Bytes} (part : front <+: written)
    (short : front ≠ written) : front.length < written.length :=
  Nat.lt_of_le_of_ne part.length_le fun same => short (part.eq_of_length same)

theorem Wire.eq_nil_of_cut {front : Bytes} {byte : UInt8} (part : front <+: [byte])
    (short : front ≠ [byte]) : front = [] :=
  List.length_eq_zero_iff.mp (Nat.lt_one_iff.mp (Wire.length_lt_of_cut part short))

namespace Reader

variable {α β : Type} {reader : Reader α} {next : α → Reader β} {input written more : Bytes}
  {value : α} {result : β}

/-- A reader asks for more bytes than are left, and says how many it asks for and how many
there are. -/
def CutShort (reader : Reader α) (input : Bytes) : Prop :=
  ∃ needed left, left.length < needed ∧
    reader input = .error (.truncated needed left.length) left

theorem CutShort.bind (cut : CutShort reader input) (next : α → Reader β) :
    CutShort (reader >>= next) input := by
  obtain ⟨needed, left, few, refused⟩ := cut
  exact ⟨needed, left, few, bind_eq_error.mpr (.inl refused)⟩

theorem CutShort.of_next {left : Bytes} (read : reader input = .ok value left)
    (cut : CutShort (next value) left) : CutShort (reader >>= next) input := by
  obtain ⟨needed, behind, few, refused⟩ := cut
  exact ⟨needed, behind, few, bind_eq_error.mpr (.inr ⟨value, left, read, refused⟩)⟩

theorem cutShort_bytes {size : Nat} (few : input.length < size) : CutShort (bytes size) input := by
  refine ⟨size, input, few, ?_⟩
  rw [bytes, if_pos (Nat.lt_of_le_of_lt (List.length_take_le' size input) few)]

/-! ## Mirrors -/

/-- A reader takes a value back from the bytes that it was written as. Whatever follows them
is left alone, and where some of them are missing at the end the reader is cut short. -/
structure Mirrors (reader : Reader α) (written : Bytes) (value : α) : Prop where
  whole : ∀ rest, reader (written ++ rest) = .ok value rest
  cut : ∀ front, front <+: written → front ≠ written → CutShort reader front

theorem Mirrors.pure (value : α) : Mirrors (pure value : Reader α) [] value where
  whole _ := rfl
  cut _ part short := absurd (List.prefix_nil.mp part) short

/-- What is written behind a value is read behind it. -/
theorem Mirrors.bind (first : Mirrors reader written value)
    (second : Mirrors (next value) more result) :
    Mirrors (reader >>= next) (written ++ more) result where
  whole rest := by
    rw [List.append_assoc, bind_eq_ok]
    exact ⟨value, more ++ rest, first.whole _, second.whole rest⟩
  cut front part short := by
    rcases Wire.cut_append part short with ⟨part, short⟩ | ⟨back, rfl, part, short⟩
    · exact (first.cut front part short).bind next
    · exact (second.cut back part short).of_next (first.whole back)

theorem Mirrors.map (mirror : Mirrors reader written value) (f : α → β) :
    Mirrors (f <$> reader) written (f value) := by
  have both : Mirrors (reader >>= fun value => Pure.pure (f value)) (written ++ []) (f value) :=
    mirror.bind (.pure (f value))
  rwa [List.append_nil, ← map_eq_pure_bind] at both

/-! ## The primitives -/

theorem mirrors_bytes (written : Bytes) : Mirrors (bytes written.length) written written where
  whole rest := bytes_append rfl rest
  cut _ part short := cutShort_bytes (Wire.length_lt_of_cut part short)

/-- A reader that takes a fixed number of bytes first has its mirror in exactly so many. -/
theorem Mirrors.of_bytes {size : Nat} {next : Bytes → Reader α} (sized : written.length = size)
    (whole : ∀ rest, (Reader.bytes size >>= next) (written ++ rest) = .ok value rest) :
    Mirrors (Reader.bytes size >>= next) written value where
  whole := whole
  cut _ part short := (cutShort_bytes (sized ▸ Wire.length_lt_of_cut part short)).bind next

theorem mirrors_u8 (value : UInt8) : Mirrors u8 [value] value where
  whole _ := rfl
  cut front part short := by
    rw [Wire.eq_nil_of_cut part short]
    exact ⟨1, [], Nat.zero_lt_one, rfl⟩

theorem mirrors_u16be (value : UInt16) : Mirrors u16be (Wire.u16be value) value :=
  .of_bytes (Wire.length_u16be value) (u16be_append value)

theorem mirrors_u16le (value : UInt16) : Mirrors u16le (Wire.u16le value) value :=
  .of_bytes (Wire.length_u16le value) (u16le_append value)

theorem mirrors_u32le (value : UInt32) : Mirrors u32le (Wire.u32le value) value :=
  .of_bytes (Wire.length_u32le value) (u32le_append value)

theorem mirrors_i32le (value : Int32) : Mirrors i32le (Wire.i32le value) value where
  whole := i32le_append value
  cut front part short := ((mirrors_u32le value.toUInt32).cut front part short).bind _

end Reader

/-- Groups without their last byte are groups that all say that another one follows. -/
theorem Wire.IsGrouped.high_of_cut {groups front : Bytes} (grouped : IsGrouped groups)
    (part : front <+: groups) (short : front ≠ groups) : ∀ byte ∈ front, 128 ≤ byte.toNat := by
  induction grouped generalizing front with
  | @last byte low =>
    rw [Wire.eq_nil_of_cut part short]
    exact nofun
  | @more byte rest high others ih =>
    rcases List.prefix_cons_iff.mp part with rfl | ⟨behind, rfl, inside⟩
    · exact nofun
    · exact List.forall_mem_cons.mpr
        ⟨high, ih inside fun same => short (by rw [same])⟩

namespace Reader

theorem mirrors_packed (value : UInt32) : Mirrors packed (Wire.packed value) value where
  whole := packed_append value
  cut front part short := by
    -- What is written is read whole, so it is groups, and a part of it is looked at to its end.
    have read := packed_append value []
    obtain ⟨groups, same, grouped, within, -⟩ := packed_eq_ok.mp read
    rw [List.append_nil, List.append_nil] at same
    rw [same] at part short
    have few : front.length < 5 :=
      Nat.lt_of_lt_of_le (Wire.length_lt_of_cut part short) within
    refine ⟨1, [], Nat.zero_lt_one, packed_eq_error.mpr (sevenBitGroups_eq_error.mpr ⟨?_, ?_, ?_⟩)⟩
    · rw [List.take_of_length_le few.le]
      exact grouped.high_of_cut part short
    · rw [List.drop_of_length_le few.le]
    · rw [if_neg (Nat.not_le.mpr few), List.length_nil]

/-- A text has its mirror if its length has room in thirty-two bits. -/
theorem mirrors_text {text : String} (short : text.utf8ByteSize < 2 ^ 32) :
    Mirrors Reader.text (Wire.text text) text where
  whole := text_append short
  cut front part less := by
    rcases Wire.cut_append part less with ⟨part, less⟩ | ⟨back, rfl, part, less⟩
    · exact ((mirrors_packed _).cut front part less).bind _
    · have size := (Utf8.length_encode text).trans (Utf8.toNat_length_encode short).symm
      have few := Wire.length_lt_of_cut part less
      rw [size] at few
      exact ((cutShort_bytes few).bind _).of_next (packed_append _ back)

end Reader

/-! ## Lists of fields -/

theorem Field.read_mirrors {field : Field}
    (countable : ∀ text, field = .text text → text.utf8ByteSize < 2 ^ 32) :
    field.type.read.Mirrors field.encode field := by
  cases field with
  | u8 value => exact (Reader.mirrors_u8 value).map Field.u8
  | u16be value => exact (Reader.mirrors_u16be value).map Field.u16be
  | u16le value => exact (Reader.mirrors_u16le value).map Field.u16le
  | u32le value => exact (Reader.mirrors_u32le value).map Field.u32le
  | i32le value => exact (Reader.mirrors_i32le value).map Field.i32le
  | packed value => exact (Reader.mirrors_packed value).map Field.packed
  | text value => exact (Reader.mirrors_text (countable value rfl)).map Field.text
  | raw value => exact (Reader.mirrors_bytes value).map Field.raw

section FieldLists

open Reader

variable {fields : List Field}

theorem FieldType.readAll_mirrors
    (countable : ∀ text, .text text ∈ fields → text.utf8ByteSize < 2 ^ 32) :
    (readAll (fields.map Field.type)).Mirrors (Field.encodeAll fields) fields := by
  induction fields with
  | nil => exact .pure []
  | cons field rest ih =>
    have first := Field.read_mirrors fun text same =>
      countable text (same ▸ List.mem_cons_self ..)
    have others := ih fun text member => countable text (List.mem_cons_of_mem field member)
    have behind : (do return field :: (← readAll (rest.map Field.type))).Mirrors
        (Field.encodeAll rest ++ []) (field :: rest) := others.bind (.pure (field :: rest))
    rw [List.append_nil] at behind
    exact first.bind behind

/-- The fields in front of the end of the bytes are read back, and the one that the bytes end
in is cut short. -/
theorem FieldType.readAll_cut
    (countable : ∀ text, .text text ∈ fields → text.utf8ByteSize < 2 ^ 32) {front : Bytes}
    (part : front <+: Field.encodeAll fields) (short : front ≠ Field.encodeAll fields) :
    ∃ before field after left, fields = before ++ field :: after ∧
      readAll (before.map Field.type) front = .ok before left ∧
      CutShort field.type.read left := by
  induction fields generalizing front with
  | nil => exact absurd (List.prefix_nil.mp part) short
  | cons field rest ih =>
    have first := Field.read_mirrors fun text same =>
      countable text (same ▸ List.mem_cons_self ..)
    rcases Wire.cut_append part short with ⟨part, short⟩ | ⟨back, rfl, part, short⟩
    · exact ⟨[], field, rest, front, rfl, rfl, first.cut front part short⟩
    · obtain ⟨before, missing, after, left, rfl, read, cut⟩ :=
        ih (fun text member => countable text (List.mem_cons_of_mem field member)) part short
      refine ⟨field :: before, missing, after, left, rfl, ?_, cut⟩
      rw [List.map_cons, readAll, bind_eq_ok]
      exact ⟨field, back, first.whole back,
        bind_eq_ok.mpr ⟨before, left, read, pure_eq_ok.mpr ⟨rfl, rfl⟩⟩⟩

/-- For all fields of which the texts can be counted in thirty-two bits: with any bytes behind
them they are read back, and exactly these bytes are left. Of bytes that end before the fields
do, the whole list cannot be read: the fields in front of the end are, and the one behind them
is refused, since it asks for more bytes than are left. -/
theorem Field.read_back (fields : List Field)
    (countable : ∀ text, .text text ∈ fields → text.utf8ByteSize < 2 ^ 32) :
    (∀ rest, FieldType.readAll (fields.map Field.type) (Field.encodeAll fields ++ rest) =
      .ok fields rest) ∧
    ∀ front, front <+: Field.encodeAll fields → front ≠ Field.encodeAll fields →
      CutShort (FieldType.readAll (fields.map Field.type)) front ∧
      ∃ before field after left, fields = before ++ field :: after ∧
        FieldType.readAll (before.map Field.type) front = .ok before left ∧
        CutShort field.type.read left := by
  have mirror := FieldType.readAll_mirrors countable
  exact ⟨mirror.whole, fun front part short =>
    ⟨mirror.cut front part short, FieldType.readAll_cut countable part short⟩⟩

/-- One field of each type, and bytes that end between the two bytes of the packed number. -/
theorem Field.read_back_everyType :
    let fields : List Field := [.u8 7, .u16be 258, .u16le 258, .u32le 65536, .i32le (-2), .raw [],
      .packed 300, .text "é", .raw [1, 2]]
    let written : Bytes :=
      [7, 1, 2, 2, 1, 0, 0, 1, 0, 254, 255, 255, 255, 172, 2, 2, 195, 169, 1, 2]
    Field.encodeAll fields = written ∧
      (∀ text, .text text ∈ fields → text.utf8ByteSize < 2 ^ 32) ∧
      FieldType.readAll (fields.map Field.type) (written ++ [9]) = .ok fields [9] ∧
      CutShort (FieldType.readAll (fields.map Field.type)) (written.take 14) ∧
      ∃ before field after left, fields = before ++ field :: after ∧
        FieldType.readAll (before.map Field.type) (written.take 14) = .ok before left ∧
        CutShort field.type.read left := by
  intro fields written
  have same : Field.encodeAll fields = written := by decide
  have countable : ∀ text, .text text ∈ fields → text.utf8ByteSize < 2 ^ 32 := by
    intro text member
    obtain rfl : text = "é" := by simpa [fields] using member
    decide
  obtain ⟨whole, cut⟩ := Field.read_back fields countable
  rw [same] at whole cut
  exact ⟨same, countable, whole [9], cut (written.take 14) (List.take_prefix ..) (by decide)⟩

end FieldLists

end SessionLayer
