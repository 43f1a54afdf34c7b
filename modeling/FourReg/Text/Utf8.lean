/-!
# Text as bytes

Program text arrives as bytes in UTF-8. Decoding is exact: it accepts the encodings of texts and
nothing else (`Utf8.decode?_eq_some_iff`).
-/

namespace FourReg.Utf8

def encode (text : List Char) : List UInt8 :=
  text.flatMap String.utf8EncodeChar

/-- The text of which these are the bytes, if there is one. -/
def decode? (bytes : List UInt8) : Option (List Char) :=
  bytes.toByteArray.utf8Decode?.map Array.toList

theorem toByteArray_encode (text : List Char) : (encode text).toByteArray = text.utf8Encode :=
  rfl

@[simp] theorem decode?_encode (text : List Char) : decode? (encode text) = some text := by
  rw [decode?, toByteArray_encode, List.utf8Decode?_utf8Encode]
  rfl

theorem decode?_eq_some_iff {bytes : List UInt8} {text : List Char} :
    decode? bytes = some text ↔ bytes = encode text := by
  constructor
  · intro h
    obtain ⟨decoded, hdecoded, rfl⟩ := Option.map_eq_some_iff.mp h
    have isSome : bytes.toByteArray.utf8Decode?.isSome := by rw [hdecoded]; rfl
    have encoded := ByteArray.utf8Encode_get_utf8Decode? (b := bytes.toByteArray) (h := isSome)
    simp only [hdecoded, Option.get_some] at encoded
    rw [← toByteArray_encode] at encoded
    have bytesEq := congrArg (fun array => array.data.toList) encoded
    simpa using bytesEq.symm
  · rintro rfl
    exact decode?_encode text

end FourReg.Utf8
