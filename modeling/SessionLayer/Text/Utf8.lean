import SessionLayer.Wire.Fault

/-!
# The bytes of a text

A text is written as its UTF-8 bytes. Reading accepts exactly the bytes of some
text, so surrogates, overlong forms and values past the last code point are
refused. The two directions undo each other: `decode?_encode` and
`encode_of_decode?`.
-/

namespace SessionLayer.Utf8

/-- The UTF-8 bytes of a text. -/
def encode (text : String) : Bytes := text.toUTF8.data.toList

/-- The text with these UTF-8 bytes, if there is one. -/
def decode? (bytes : Bytes) : Option String := String.fromUTF8? ⟨bytes.toArray⟩

@[simp] theorem decode?_encode (text : String) : decode? (encode text) = some text := by
  have bytes : (⟨(encode text).toArray⟩ : ByteArray) = text.toByteArray := by
    simp [encode, String.toUTF8]
  rw [decode?, bytes, String.fromUTF8?, dif_pos text.isValidUTF8]
  rfl

theorem encode_of_decode? {bytes : Bytes} {text : String} (h : decode? bytes = some text) :
    encode text = bytes := by
  simp only [decode?, String.fromUTF8?] at h
  split at h
  · cases h; rfl
  · cases h

end SessionLayer.Utf8
