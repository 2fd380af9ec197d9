import Mathlib.Data.List.Basic
import LayeredConfig.Text.Encoding

/-!
A text is kept as bytes in UTF-8, or, if every character has a code of one byte, in ISO-8859-1.
The two agree on ASCII texts and on no others. Bytes that are UTF-8 are always read as such, so
the characters of an ISO-8859-1 text come back exactly if it is an ASCII text or its bytes are
no well-formed UTF-8.
-/

namespace LayeredConfig.Text

private theorem toList_loop_eq
    (bytes : ByteArray) (index : Nat) (read : List UInt8) :
    ByteArray.toList.loop bytes index read = read.reverse ++ bytes.data.toList.drop index := by
  generalize remainder : bytes.data.size - index = remaining
  induction remaining generalizing index read with
  | zero =>
      have outside : ¬ index < bytes.size := by
        rw [ByteArray.size]
        omega
      have nothing : bytes.data.toList.drop index = [] :=
        List.drop_eq_nil_of_le (Nat.not_lt.mp outside)
      rw [ByteArray.toList.loop, if_neg outside, nothing, List.append_nil]
  | succ remaining inductionHypothesis =>
      have inside : index < bytes.size := by
        rw [ByteArray.size]
        omega
      have position : index < bytes.data.toList.length := inside
      have next : bytes.get! index = bytes.data.toList[index] := by
        obtain ⟨data⟩ := bytes
        exact getElem!_pos data index inside
      rw [ByteArray.toList.loop, if_pos inside, inductionHypothesis _ _ (by omega), next,
        List.drop_eq_getElem_cons position]
      simp

theorem toList_eq_data
    (bytes : ByteArray) :
    bytes.toList = bytes.data.toList := by
  rw [ByteArray.toList, toList_loop_eq]
  rfl

theorem toList_toUTF8
    (text : String) :
    text.toUTF8.toList = text.toList.flatMap String.utf8EncodeChar := by
  have encoded : text.toUTF8 = text.toList.utf8Encode := String.utf8Encode_toList.symm
  rw [toList_eq_data, encoded, List.utf8Encode, List.toList_data_toByteArray]

theorem bytes_ext
    {first second : ByteArray} (same : first.toList = second.toList) :
    first = second := by
  rw [toList_eq_data, toList_eq_data] at same
  exact ByteArray.ext (Array.toList_inj.mp same)

theorem toUTF8_toList_inj
    {first second : String} (same : first.toUTF8.toList = second.toUTF8.toList) :
    first = second :=
  String.toByteArray_inj.mp (bytes_ext same)

/-- A character is encoded by its own code, or by bytes above all codes of that kind. -/
theorem encoded_byte
    {c : Char} {byte : UInt8} (member : byte ∈ String.utf8EncodeChar c) :
    byte.toNat = c.val.toNat ∨ 128 ≤ byte.toNat := by
  have number (code : Nat) (same : byte = UInt8.ofNat code) : byte.toNat = code % 256 := by
    rw [same, UInt8.toNat_ofNat']
  rw [String.utf8EncodeChar] at member
  split at member
  · left
    have own := number _ (List.mem_singleton.mp member)
    omega
  · right
    split at member
    · simp only [List.mem_cons, List.not_mem_nil, or_false] at member
      rcases member with same | same
      all_goals
        have above := number _ same
        omega
    · split at member
      all_goals
        simp only [List.mem_cons, List.not_mem_nil, or_false] at member
      · rcases member with same | same | same
        all_goals
          have above := number _ same
          omega
      · rcases member with same | same | same | same
        all_goals
          have above := number _ same
          omega

def IsAscii (text : String) : Prop :=
  ∀ c ∈ text.toList, c.toNat ≤ 0x7F

/-- All characters of the text have a code of one byte. -/
def IsLatin1 (text : String) : Prop :=
  ∀ c ∈ text.toList, c.toNat ≤ 0xFF

instance (text : String) : Decidable (IsAscii text) :=
  List.decidableBAll (fun c : Char => c.toNat ≤ 0x7F) text.toList

instance (text : String) : Decidable (IsLatin1 text) :=
  List.decidableBAll (fun c : Char => c.toNat ≤ 0xFF) text.toList

/-- The bytes of a text in ISO-8859-1, one for each character. -/
def toLatin1 (text : String) : ByteArray :=
  (text.toList.map fun c => UInt8.ofNat c.toNat).toByteArray

theorem toList_toLatin1
    (text : String) :
    (toLatin1 text).toList = text.toList.map fun c => UInt8.ofNat c.toNat := by
  rw [toList_eq_data, toLatin1, List.toList_data_toByteArray]

theorem ofLatin1_toLatin1
    {text : String} (latin1 : IsLatin1 text) :
    ofLatin1 (toLatin1 text) = text := by
  have kept : ∀ c ∈ text.toList, Char.ofNat (UInt8.ofNat c.toNat).toNat = c := by
    intro c member
    have code : (UInt8.ofNat c.toNat).toNat = c.toNat := by
      have small := latin1 c member
      rw [UInt8.toNat_ofNat']
      omega
    rw [code, Char.ofNat_toNat]
  rw [ofLatin1, toList_toLatin1, List.map_map]
  calc
    String.ofList (text.toList.map _) = String.ofList (text.toList.map id) :=
      congrArg String.ofList (List.map_congr_left kept)
    _ = text := by rw [List.map_id, String.ofList_toList]

private theorem toNat_ofByte
    (byte : UInt8) :
    (Char.ofNat byte.toNat).toNat = byte.toNat := by
  have valid : byte.toNat.isValidChar := by
    have small := byte.toNat_lt
    exact Or.inl (by omega)
  rw [Char.ofNat, dif_pos valid]
  rfl

theorem isLatin1_ofLatin1
    (bytes : ByteArray) :
    IsLatin1 (ofLatin1 bytes) := by
  intro c member
  rw [ofLatin1, String.toList_ofList, List.mem_map] at member
  obtain ⟨byte, -, rfl⟩ := member
  have small := byte.toNat_lt
  rw [toNat_ofByte]
  omega

theorem toLatin1_ofLatin1
    (bytes : ByteArray) :
    toLatin1 (ofLatin1 bytes) = bytes := by
  apply bytes_ext
  rw [toList_toLatin1, ofLatin1, String.toList_ofList, List.map_map]
  have kept : ∀ byte ∈ bytes.toList, UInt8.ofNat (Char.ofNat byte.toNat).toNat = byte := by
    intro byte _
    rw [toNat_ofByte, UInt8.ofNat_toNat]
  exact (List.map_congr_left kept).trans (List.map_id _)

private theorem encoded_ascii
    {c : Char} (ascii : c.toNat ≤ 0x7F) :
    String.utf8EncodeChar c = [UInt8.ofNat c.toNat] := by
  rw [String.utf8EncodeChar]
  exact if_pos ascii

private theorem length_le_encoded
    (characters : List Char) :
    characters.length ≤ (characters.flatMap String.utf8EncodeChar).length := by
  induction characters with
  | nil =>
      exact Nat.le_refl 0
  | cons c rest inductionHypothesis =>
      have positive := c.utf8Size_pos
      rw [List.flatMap_cons, List.length_append, List.length_cons, String.length_utf8EncodeChar]
      omega

private theorem ascii_of_encoded_length
    {characters : List Char}
    (same : (characters.flatMap String.utf8EncodeChar).length = characters.length) :
    ∀ c ∈ characters, c.toNat ≤ 0x7F := by
  induction characters with
  | nil =>
      exact List.forall_mem_nil _
  | cons c rest inductionHypothesis =>
      have positive := c.utf8Size_pos
      have others := length_le_encoded rest
      rw [List.flatMap_cons, List.length_append, List.length_cons,
        String.length_utf8EncodeChar] at same
      have single : c.utf8Size = 1 := by omega
      rw [List.forall_mem_cons]
      constructor
      · exact UInt32.le_iff_toNat_le.mp (Char.utf8Size_eq_one_iff.mp single)
      · exact inductionHypothesis (by omega)

/-- Only the characters of ASCII take one byte each in UTF-8 as well. -/
theorem toLatin1_eq_toUTF8_iff
    {text : String} :
    toLatin1 text = text.toUTF8 ↔ IsAscii text := by
  constructor
  · intro same
    have lists := congrArg ByteArray.toList same
    rw [toList_toLatin1, toList_toUTF8] at lists
    have lengths := congrArg List.length lists
    rw [List.length_map] at lengths
    exact ascii_of_encoded_length lengths.symm
  · intro ascii
    apply bytes_ext
    rw [toList_toLatin1, toList_toUTF8, List.map_eq_flatMap]
    apply List.flatMap_congr
    intro c member
    exact (encoded_ascii (ascii c member)).symm

/-- Every content is read as the one text that it holds: in UTF-8, or else in ISO-8859-1. -/
theorem decode_eq_iff
    {bytes : ByteArray} {text : String} :
    decode bytes = text ↔
      bytes = text.toUTF8 ∨
        (¬ bytes.IsValidUTF8 ∧ IsLatin1 text ∧ bytes = toLatin1 text) := by
  constructor
  · intro decoded
    subst decoded
    by_cases valid : bytes.IsValidUTF8
    · left
      have whole : bytes = (String.fromUTF8 bytes valid).toUTF8 := rfl
      rw [whole, decode_toUTF8]
    · right
      rw [decode_of_not_valid valid]
      exact ⟨valid, isLatin1_ofLatin1 bytes, (toLatin1_ofLatin1 bytes).symm⟩
  · intro held
    obtain rfl | ⟨invalid, latin1, rfl⟩ := held
    · exact decode_toUTF8 text
    · rw [decode_of_not_valid invalid, ofLatin1_toLatin1 latin1]

/-- A text in ISO-8859-1 is read as it was written exactly if it is an ASCII text or its bytes
are no well-formed UTF-8. -/
theorem decode_toLatin1_eq_iff
    {text : String} (latin1 : IsLatin1 text) :
    decode (toLatin1 text) = text ↔ IsAscii text ∨ ¬ (toLatin1 text).IsValidUTF8 := by
  rw [decode_eq_iff, toLatin1_eq_toUTF8_iff]
  constructor
  · intro held
    obtain ascii | ⟨invalid, -⟩ := held
    · exact Or.inl ascii
    · exact Or.inr invalid
  · intro told
    obtain ascii | invalid := told
    · exact Or.inl ascii
    · exact Or.inr ⟨invalid, latin1, rfl⟩

end LayeredConfig.Text
