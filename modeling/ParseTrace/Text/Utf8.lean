/-!
# Texts as bytes

Files hold texts in the encoding UTF-8. Bytes that are no text are told apart by the length of
their longest part, from the start, that is one.
-/

namespace ParseTrace

/-- The contents of a file. -/
abbrev Bytes := List UInt8

namespace Utf8

/-- The bytes of a text. -/
def encode (text : String) : Bytes :=
  text.toByteArray.data.toList

/-- The text that has the given bytes, if there is one. -/
def decode? (bytes : Bytes) : Option String :=
  String.fromUTF8? ⟨bytes.toArray⟩

/-- Where decoding that begins at `start` meets the first byte that begins no character. -/
def validLengthFrom (bytes : ByteArray) (start : Nat) : Nat :=
  if start < bytes.size then
    match bytes.utf8DecodeChar? start with
    | some char => validLengthFrom bytes (start + char.utf8Size)
    | none => start
  else start
termination_by bytes.size - start
decreasing_by
  have := char.utf8Size_pos
  omega

/-- The length of the longest part at the start of the bytes that is a text. -/
def validLength (bytes : Bytes) : Nat :=
  validLengthFrom ⟨bytes.toArray⟩ 0

/-- Every text is read back from its bytes. -/
theorem decode?_encode (text : String) : decode? (encode text) = some text := by
  have bytes : (⟨(encode text).toArray⟩ : ByteArray) = text.toByteArray := rfl
  unfold decode?
  rw [bytes, String.fromUTF8?, dif_pos text.isValidUTF8]
  rfl

/-- Bytes are a text exactly if they are its encoding. -/
theorem decode?_eq_some_iff {bytes : Bytes} {text : String} :
    decode? bytes = some text ↔ bytes = encode text := by
  constructor
  · intro decoded
    rw [decode?, String.fromUTF8?] at decoded
    split at decoded
    next valid =>
      obtain rfl := Option.some.inj decoded
      rfl
    next => cases decoded
  · rintro rfl
    exact decode?_encode text

end Utf8

end ParseTrace
