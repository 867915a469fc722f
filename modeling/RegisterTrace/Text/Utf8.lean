/-!
# Text as bytes

Text reaches the library as bytes and is checked to be UTF-8.  Main statement: the bytes that are
text are exactly the encoded texts, and each is read as the text that it encodes.
-/

namespace RegisterTrace.Utf8

/-- The bytes of a text. -/
def encode (text : String) : List UInt8 :=
  text.toList.flatMap String.utf8EncodeChar

/-- The text that bytes encode, if they encode one. -/
def decode? (bytes : List UInt8) : Option String :=
  String.fromUTF8? bytes.toByteArray

theorem toByteArray_encode
    (text : String) :
    (encode text).toByteArray = text.toUTF8 := by
  rw [String.toUTF8_eq_toByteArray, ← String.utf8Encode_toList]
  rfl

theorem encode_append
    (left right : String) :
    encode (left ++ right) = encode left ++ encode right := by
  simp [encode]

/-- Bytes are read as a text exactly if they are the bytes of that text. -/
theorem decode?_eq_some_iff
    {bytes : List UInt8}
    {text : String} :
    decode? bytes = some text ↔ encode text = bytes := by
  constructor
  · intro decoded
    unfold decode? String.fromUTF8? at decoded
    split at decoded
    · next valid =>
        cases decoded
        have same : (encode (String.fromUTF8 bytes.toByteArray valid)).toByteArray =
            bytes.toByteArray := toByteArray_encode _
        have lists := congrArg (fun array : ByteArray => array.data.toList) same
        simpa [List.toList_data_toByteArray] using lists
    · cases decoded
  · intro encoded
    subst encoded
    unfold decode? String.fromUTF8?
    rw [toByteArray_encode]
    have valid : text.toUTF8.IsValidUTF8 := text.isValidUTF8
    rw [dif_pos valid]
    rfl

theorem decode?_encode
    (text : String) :
    decode? (encode text) = some text :=
  decode?_eq_some_iff.2 rfl

end RegisterTrace.Utf8
