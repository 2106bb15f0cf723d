import Mathlib.Data.List.Basic

/-!
# Bytes of texts

A text is stored as the bytes of its characters one after the other.  The characters of
ASCII are one byte each, and no byte of another character is one of those.
-/

namespace GatewayAcl.Text

/-- The loop has seen the bytes in front of its index, and ends with all of them. -/
theorem toList_loop {bytes : ByteArray} {index : Nat} {seen : List UInt8}
    (isSeen : seen.reverse = bytes.data.toList.take index) :
    ByteArray.toList.loop bytes index seen = bytes.data.toList := by
  fun_induction ByteArray.toList.loop bytes index seen with
  | case1 index seen inside ih =>
      have inList : index < bytes.data.toList.length := by simpa using inside
      apply ih
      rw [List.reverse_cons, isSeen, List.take_succ_eq_append_getElem inList]
      simp [ByteArray.get!, inside]
  | case2 index seen outside =>
      rw [isSeen, List.take_of_length_le (by simpa using Nat.le_of_not_lt outside)]

theorem toList_eq (bytes : ByteArray) : bytes.toList = bytes.data.toList :=
  toList_loop rfl

/-- The bytes of characters, one after the other. -/
def bytes (text : List Char) : List UInt8 :=
  text.flatMap String.utf8EncodeChar

@[simp] theorem bytes_nil : bytes [] = [] := rfl

@[simp] theorem bytes_cons (char : Char) (text : List Char) :
    bytes (char :: text) = String.utf8EncodeChar char ++ bytes text := rfl

@[simp] theorem bytes_append (front behind : List Char) :
    bytes (front ++ behind) = bytes front ++ bytes behind :=
  List.flatMap_append

theorem toList_toUTF8 (text : String) : text.toUTF8.toList = bytes text.toList := by
  have encoded : text.toByteArray = text.toList.utf8Encode := by
    rw [← String.toByteArray_ofList, String.ofList_toList]
  rw [toList_eq, String.toUTF8_eq_toByteArray, encoded, List.utf8Encode,
    List.toList_data_toByteArray, bytes]

theorem fromUTF8?_bytes (text : String) :
    String.fromUTF8? ⟨(bytes text.toList).toArray⟩ = some text := by
  have stored : (⟨(bytes text.toList).toArray⟩ : ByteArray) = text.toByteArray := by
    rw [← toList_toUTF8, toList_eq, Array.toArray_toList, String.toUTF8_eq_toByteArray]
  rw [stored, String.fromUTF8?, dif_pos text.isValidUTF8]
  rfl

variable {char : Char}

theorem utf8EncodeChar_of_le (ascii : char.toNat ≤ 127) :
    String.utf8EncodeChar char = [UInt8.ofNat char.toNat] := by
  rw [String.utf8EncodeChar]
  exact if_pos ascii

/-- No byte of a character beyond ASCII is a character of ASCII. -/
theorem le_of_mem_utf8EncodeChar (beyond : 127 < char.toNat) :
    ∀ byte ∈ String.utf8EncodeChar char, 128 ≤ byte.toNat := by
  have notAscii : ¬ char.val.toNat ≤ 127 := Nat.not_le.mpr beyond
  rw [String.utf8EncodeChar.eq_1, if_neg notAscii]
  split
  · simp
    omega
  · split
    · simp
      omega
    · simp
      omega

end GatewayAcl.Text
