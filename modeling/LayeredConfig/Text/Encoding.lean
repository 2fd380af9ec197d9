/-!
The bytes of a properties file are UTF-8 where they are well-formed UTF-8, and ISO-8859-1
otherwise, so that every content has a reading.
-/

namespace LayeredConfig.Text

def ofLatin1 (bytes : ByteArray) : String :=
  String.ofList (bytes.toList.map fun byte => Char.ofNat byte.toNat)

/-- The text that the bytes encode, guessed for the content as a whole. -/
def decode (bytes : ByteArray) : String :=
  (String.fromUTF8? bytes).getD (ofLatin1 bytes)

theorem decode_toUTF8 (text : String) : decode text.toUTF8 = text := by
  simp [decode, String.fromUTF8?, String.toUTF8, text.isValidUTF8]
  rfl

/-- Bytes that are no well-formed UTF-8 are read one character each. -/
theorem decode_of_not_valid {bytes : ByteArray} (h : ¬ bytes.IsValidUTF8) :
    decode bytes = ofLatin1 bytes := by
  simp [decode, String.fromUTF8?, h]

end LayeredConfig.Text
