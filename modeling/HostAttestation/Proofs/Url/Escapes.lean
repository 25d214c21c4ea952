import HostAttestation.Proofs.Bytes.Utf8
import HostAttestation.Url.Percent

/-! # Escaped texts

In a text that was escaped for one part of an address, nothing is left to be escaped for a part in
which fewer characters are. Escaping it once more leaves it as it is. Where the sign of an escape
is escaped itself, the text is read back, so no two texts are escaped alike. -/

namespace HostAttestation

namespace Percent

/-- The characters that escapes are made of. -/
def marks : List Char :=
  ['%', '0', '1', '2', '3', '4', '5', '6', '7', '8', '9', 'A', 'B', 'C', 'D', 'E', 'F']

/-- Nothing in the text is to be escaped. -/
def IsClean (escaped text : List Char) : Prop :=
  ∀ c ∈ text, isControl c = false ∧ c ∉ escaped

theorem mem_marks_of_mem_encodeByte {byte : UInt8} {c : Char} (member : c ∈ encodeByte byte) :
    c ∈ marks := by
  have digits : ∀ value ∈ List.range 16, digit value ∈ marks := by decide
  have size := byte.toNat_lt
  simp only [encodeByte, List.mem_cons, List.not_mem_nil, or_false] at member
  rcases member with rfl | rfl | rfl
  · decide
  · exact digits _ (List.mem_range.mpr (by omega))
  · exact digits _ (List.mem_range.mpr (by omega))

theorem isControl_of_mem_marks {c : Char} (member : c ∈ marks) : isControl c = false := by
  have all : marks.all fun c => !isControl c := by decide
  simpa using List.all_eq_true.mp all c member

/-- What an escaped text consists of. -/
theorem mem_encodeChar {escaped : List Char} {source c : Char}
    (member : c ∈ encodeChar escaped source) :
    c ∈ marks ∨ (c = source ∧ isControl c = false ∧ c ∉ escaped) := by
  rw [encodeChar] at member
  split at member
  next =>
    rcases List.mem_flatMap.mp member with ⟨byte, _, written⟩
    exact .inl (mem_marks_of_mem_encodeByte written)
  next kept =>
    rw [List.mem_singleton] at member
    subst member
    rw [Bool.or_eq_true, not_or, Bool.not_eq_true, List.contains_iff_mem] at kept
    exact .inr ⟨rfl, kept⟩

theorem mem_encodeChars {escaped text : List Char} {c : Char}
    (member : c ∈ encodeChars escaped text) :
    c ∈ marks ∨ (c ∈ text ∧ isControl c = false ∧ c ∉ escaped) := by
  rcases List.mem_flatMap.mp member with ⟨source, there, written⟩
  rcases mem_encodeChar written with mark | ⟨rfl, unescaped⟩
  · exact .inl mark
  · exact .inr ⟨there, unescaped⟩

theorem isClean_encodeChars {escaped fewer : List Char} (text : List Char)
    (covered : ∀ c ∈ fewer, c ∈ escaped ∧ c ∉ marks) :
    IsClean fewer (encodeChars escaped text) := by
  intro c member
  rcases mem_encodeChars member with mark | ⟨_, printed, unescaped⟩
  · exact ⟨isControl_of_mem_marks mark, fun listed => (covered c listed).2 mark⟩
  · exact ⟨printed, fun listed => unescaped (covered c listed).1⟩

theorem isClean_of_all {escaped text : List Char}
    (all : text.all fun c => !isControl c && !escaped.contains c) : IsClean escaped text := by
  intro c member
  simpa using List.all_eq_true.mp all c member

theorem isClean_append {escaped first second : List Char} (front : IsClean escaped first)
    (behind : IsClean escaped second) : IsClean escaped (first ++ second) :=
  fun c member => (List.mem_append.mp member).elim (front c) (behind c)

theorem IsClean.mono {escaped fewer text : List Char} (clean : IsClean escaped text)
    (covered : fewer.all escaped.contains) : IsClean fewer text :=
  fun c member => (clean c member).imp_right fun unescaped listed =>
    unescaped (List.contains_iff_mem.mp (List.all_eq_true.mp covered c listed))

theorem encodeChars_eq_self {escaped text : List Char} (clean : IsClean escaped text) :
    encodeChars escaped text = text := by
  induction text with
  | nil => rfl
  | cons c rest induction =>
      have headed := List.forall_mem_cons.mp clean
      have kept : encodeChar escaped c = [c] := by
        rw [encodeChar, headed.1.1, List.contains_eq_mem, decide_eq_false headed.1.2]
        rfl
      rw [encodeChars, List.flatMap_cons, kept]
      exact congrArg (c :: ·) (induction headed.2)

theorem encodeChar_ne_nil (escaped : List Char) (c : Char) : encodeChar escaped c ≠ [] := by
  rw [encodeChar]
  split
  next =>
    intro empty
    cases bytes : Utf8.encode (String.singleton c) with
    | nil => exact Utf8.encode_singleton_ne_nil c bytes
    | cons byte rest =>
        rw [bytes, List.flatMap_cons, encodeByte] at empty
        cases empty
  next => exact List.cons_ne_nil c []

theorem mem_marks_or_head?_of_encodeChars {escaped text : List Char} {c : Char}
    (starts : (encodeChars escaped text).head? = some c) : c ∈ marks ∨ text.head? = some c := by
  cases text with
  | nil => cases starts
  | cons first rest =>
      rw [encodeChars, List.flatMap_cons, List.head?_append,
        List.head?_eq_some_head (encodeChar_ne_nil escaped first)] at starts
      cases starts
      exact (mem_encodeChar (List.head_mem _)).imp_right fun own => congrArg some own.1.symm

theorem mem_marks_or_getLast?_of_encodeChars {escaped text : List Char} {c : Char}
    (ends : (encodeChars escaped text).getLast? = some c) :
    c ∈ marks ∨ text.getLast? = some c := by
  rcases List.eq_nil_or_concat text with rfl | ⟨front, last, rfl⟩
  · cases ends
  · rw [List.concat_eq_append, encodeChars, List.flatMap_append, List.flatMap_singleton,
      List.getLast?_append, List.getLast?_eq_some_getLast (encodeChar_ne_nil escaped last)] at ends
    cases ends
    rw [List.concat_eq_append, List.getLast?_concat]
    exact (mem_encodeChar (List.getLast_mem _)).imp_right fun own => congrArg some own.1.symm

theorem encodeChars_eq_nil_iff (escaped text : List Char) :
    encodeChars escaped text = [] ↔ text = [] := by
  rw [encodeChars, List.flatMap_eq_nil_iff]
  constructor
  · intro empty
    exact List.eq_nil_iff_forall_not_mem.mpr fun c member =>
      encodeChar_ne_nil escaped c (empty c member)
  · rintro rfl
    exact fun c member => absurd member List.not_mem_nil

/-! ## Reading escapes -/

theorem decode_cons_of_ne {byte : UInt8} (different : byte ≠ 0x25) (rest : Bytes) :
    decode (byte :: rest) = byte :: decode rest := by
  match rest with
  | [] => simp [decode]
  | [next] => simp [decode]
  | high :: low :: rest => rw [decode, if_neg different]

/-- The digits of an escape are in ASCII and have their values. -/
theorem code_digit (value : Nat) (small : value < 16) : (digit value).toNat < 128 ∧
    Hex.value? (Char.ofNat (UInt8.ofNat (digit value).toNat).toNat) = some value := by
  have all : ∀ value ∈ List.range 16, (digit value).toNat < 128 ∧
      Hex.value? (Char.ofNat (UInt8.ofNat (digit value).toNat).toNat) = some value := by decide
  exact all value (List.mem_range.mpr small)

theorem decode_encodeByte (byte : UInt8) (rest : Bytes) :
    decode ((encodeByte byte).flatMap String.utf8EncodeChar ++ rest) = byte :: decode rest := by
  have size := byte.toNat_lt
  rcases code_digit (byte.toNat / 16) (by omega) with ⟨highAscii, high⟩
  rcases code_digit (byte.toNat % 16) (by omega) with ⟨lowAscii, low⟩
  have whole : 16 * (byte.toNat / 16) + byte.toNat % 16 = byte.toNat := by omega
  rw [encodeByte, List.flatMap_cons, List.flatMap_cons, List.flatMap_singleton,
    Utf8.utf8EncodeChar_of_ascii (by decide : '%'.toNat < 128),
    Utf8.utf8EncodeChar_of_ascii highAscii, Utf8.utf8EncodeChar_of_ascii lowAscii]
  change decode (0x25 :: _ :: _ :: rest) = _
  rw [decode, if_pos rfl, high, low]
  dsimp only
  rw [whole, UInt8.ofNat_toNat]

theorem decode_encodeBytes (bytes rest : Bytes) :
    decode ((bytes.flatMap encodeByte).flatMap String.utf8EncodeChar ++ rest) =
      bytes ++ decode rest := by
  induction bytes with
  | nil => rfl
  | cons byte others induction =>
      rw [List.flatMap_cons, List.flatMap_append, List.append_assoc, decode_encodeByte, induction,
        List.cons_append]

theorem decode_encodeChar {escaped : List Char} (sign : '%' ∈ escaped) (c : Char) (rest : Bytes) :
    decode ((encodeChar escaped c).flatMap String.utf8EncodeChar ++ rest) =
      String.utf8EncodeChar c ++ decode rest := by
  rw [encodeChar]
  split
  next =>
    rw [decode_encodeBytes, Utf8.encode_eq_flatMap, String.toList_singleton,
      List.flatMap_singleton]
  next kept =>
    rw [Bool.or_eq_true, not_or, Bool.not_eq_true, List.contains_iff_mem] at kept
    have ascii : c.toNat < 128 := by
      have printed := kept.1
      simp only [isControl, Bool.or_eq_false_iff, decide_eq_false_iff_not] at printed
      omega
    have different : UInt8.ofNat c.toNat ≠ 0x25 := by
      intro equal
      have code := congrArg UInt8.toNat equal
      rw [UInt8.toNat_ofNat_of_lt' (Nat.lt_trans ascii (by decide))] at code
      have marks : c = '%' := Char.toNat_inj.mp code
      rw [marks] at kept
      exact kept.2 sign
    rw [List.flatMap_singleton, Utf8.utf8EncodeChar_of_ascii ascii, List.singleton_append,
      decode_cons_of_ne different, List.singleton_append]

/-- A text is read back from its escapes, if the sign of an escape is escaped itself. -/
theorem decode_encodeChars {escaped : List Char} (sign : '%' ∈ escaped) (text : List Char) :
    decode (Utf8.encode (encode escaped text)) = Utf8.encode (String.ofList text) := by
  rw [Utf8.encode_eq_flatMap, Utf8.encode_eq_flatMap, encode, String.toList_ofList,
    String.toList_ofList]
  induction text with
  | nil => simp [encodeChars, decode]
  | cons c rest induction =>
      rw [encodeChars, List.flatMap_cons, List.flatMap_append, decode_encodeChar sign,
        List.flatMap_cons]
      exact congrArg (String.utf8EncodeChar c ++ ·) induction

theorem encode_injective {escaped left right : List Char} (sign : '%' ∈ escaped)
    (same : encode escaped left = encode escaped right) : left = right := by
  have decoded := congrArg (fun text => decode (Utf8.encode text)) same
  rw [decode_encodeChars sign, decode_encodeChars sign] at decoded
  exact String.ofList_injective (Utf8.encode_injective decoded)

end Percent

end HostAttestation
