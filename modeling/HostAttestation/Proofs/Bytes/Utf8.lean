import HostAttestation.Bytes.Utf8

/-! # Bytes of texts

The bytes of a text are those of its characters one after the other, and the text is read back
from them. Only characters of ASCII have bytes of ASCII. -/

namespace HostAttestation

namespace Utf8

theorem toList_loop (bytes : ByteArray) (index : Nat) (read : List UInt8) :
    ByteArray.toList.loop bytes index read = read.reverse ++ bytes.data.toList.drop index := by
  fun_induction ByteArray.toList.loop bytes index read with
  | case1 index read inside induction =>
      have bound : index < bytes.data.toList.length := by simpa using inside
      have byte : bytes.get! index = bytes.data.toList[index] :=
        getElem!_pos bytes.data index (by simpa using inside)
      rw [induction, List.drop_eq_getElem_cons bound, byte, List.reverse_cons, List.append_assoc,
        List.singleton_append]
  | case2 index read outside =>
      rw [List.drop_eq_nil_of_le (by simpa using outside), List.append_nil]

theorem toList_eq (bytes : ByteArray) : bytes.toList = bytes.data.toList :=
  toList_loop bytes 0 []

theorem encode_eq_flatMap (text : String) :
    encode text = text.toList.flatMap String.utf8EncodeChar := by
  rw [encode, toList_eq, String.toUTF8_eq_toByteArray, ← String.utf8Encode_toList, List.utf8Encode,
    List.data_toByteArray]

theorem decode?_encode (text : String) : decode? (encode text) = some text := by
  have bytes : (⟨(encode text).toArray⟩ : ByteArray) = text.toByteArray := by
    rw [encode, toList_eq, Array.toArray_toList, String.toUTF8_eq_toByteArray]
  rw [decode?, bytes, String.fromUTF8?, dif_pos text.isValidUTF8]
  rfl

theorem decode?_eq_some_iff (bytes : Bytes) (text : String) :
    decode? bytes = some text ↔ bytes = encode text := by
  constructor
  · intro decoded
    rw [decode?, String.fromUTF8?] at decoded
    split at decoded
    next valid =>
      cases decoded
      rw [encode, toList_eq]
      rfl
    next => cases decoded
  · rintro rfl
    exact decode?_encode text

theorem encode_injective {left right : String} (same : encode left = encode right) :
    left = right := by
  have decoded := congrArg decode? same
  rw [decode?_encode, decode?_encode] at decoded
  exact Option.some.inj decoded

theorem encode_singleton_ne_nil (c : Char) : encode (String.singleton c) ≠ [] := by
  rw [encode_eq_flatMap, String.toList_singleton, List.flatMap_singleton]
  exact String.utf8EncodeChar_ne_nil

theorem utf8EncodeChar_of_ascii {c : Char} (ascii : c.toNat < 128) :
    String.utf8EncodeChar c = [UInt8.ofNat c.toNat] := by
  have narrow : c.val.toNat ≤ 127 := Nat.le_of_lt_succ ascii
  rw [String.utf8EncodeChar, if_pos narrow]
  rfl

theorem le_of_mem_utf8EncodeChar {c : Char} (beyond : 128 ≤ c.toNat) {byte : UInt8}
    (member : byte ∈ String.utf8EncodeChar c) : 128 ≤ byte.toNat := by
  have wide : ¬c.val.toNat ≤ 127 := Nat.not_le.mpr beyond
  have high {value : Nat} (large : 128 ≤ value) (small : value < 256) :
      128 ≤ (UInt8.ofNat value).toNat := by rwa [UInt8.toNat_ofNat_of_lt' small]
  rw [String.utf8EncodeChar, if_neg wide] at member
  split at member
  next =>
    simp only [List.mem_cons, List.not_mem_nil, or_false] at member
    rcases member with rfl | rfl <;> exact high (by omega) (by omega)
  next =>
    split at member
    next =>
      simp only [List.mem_cons, List.not_mem_nil, or_false] at member
      rcases member with rfl | rfl | rfl <;> exact high (by omega) (by omega)
    next =>
      simp only [List.mem_cons, List.not_mem_nil, or_false] at member
      rcases member with rfl | rfl | rfl | rfl <;> exact high (by omega) (by omega)

/-- A byte of ASCII among the bytes of a text stands for a character of the text. -/
theorem mem_of_mem_encode {text : List Char} {c : Char} (ascii : c.toNat < 128)
    (member : UInt8.ofNat c.toNat ∈ encode (String.ofList text)) : c ∈ text := by
  rw [encode_eq_flatMap, String.toList_ofList] at member
  rcases List.mem_flatMap.mp member with ⟨own, inside, byte⟩
  have value : (UInt8.ofNat c.toNat).toNat = c.toNat :=
    UInt8.toNat_ofNat_of_lt' (Nat.lt_trans ascii (by decide))
  by_cases narrow : own.val.toNat ≤ 127
  · rw [String.utf8EncodeChar, if_pos narrow, List.mem_singleton] at byte
    have code := congrArg UInt8.toNat byte
    rw [value, UInt8.toNat_ofNat_of_lt' (Nat.lt_of_le_of_lt narrow (by decide))] at code
    rwa [Char.toNat_inj.mp code]
  · have high := le_of_mem_utf8EncodeChar (Nat.not_le.mp narrow) byte
    omega

end Utf8

end HostAttestation
