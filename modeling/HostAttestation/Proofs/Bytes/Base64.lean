import HostAttestation.Bytes.Base64

/-! # Strict base64

A text that stands on its own is read exactly if it is what is written for some bytes: the
alphabet, the padding and the unused bits leave no choice. Inside a document too, what is written
for some bytes is read as these bytes. -/

namespace HostAttestation

namespace Base64

/-! ## Digits -/

theorem value?_eq_some_of_lt {value : Nat} (small : value < 64) :
    value? (digit value) = some value := by
  have all : ∀ value ∈ List.range 64, value? (digit value) = some value := by decide
  exact all value (List.mem_range.mpr small)

theorem digit_ne_padding {value : Nat} (small : value < 64) : digit value ≠ '=' := by
  have all : ∀ value ∈ List.range 64, digit value ≠ '=' := by decide
  exact all value (List.mem_range.mpr small)

theorem ofNat_toNat_of_eq {c : Char} {number : Nat} (same : number = c.toNat) :
    Char.ofNat number = c := by
  rw [same, Char.ofNat_toNat]

/-- The ranges of the alphabet follow each other without gaps in the values. -/
theorem digit_of_value?_eq_some {c : Char} {value : Nat} (found : value? c = some value) :
    value < 64 ∧ digit value = c := by
  unfold value? at found
  split at found
  next letter =>
    have low : 65 ≤ c.toNat := letter.1
    have high : c.toNat ≤ 90 := letter.2
    cases found
    refine ⟨by omega, ?_⟩
    rw [digit, if_pos (by omega)]
    exact ofNat_toNat_of_eq (by omega)
  next =>
    split at found
    next letter =>
      have low : 97 ≤ c.toNat := letter.1
      have high : c.toNat ≤ 122 := letter.2
      cases found
      refine ⟨by omega, ?_⟩
      rw [digit, if_neg (by omega), if_pos (by omega)]
      exact ofNat_toNat_of_eq (by omega)
    next =>
      split at found
      next figure =>
        have low : 48 ≤ c.toNat := figure.1
        have high : c.toNat ≤ 57 := figure.2
        cases found
        refine ⟨by omega, ?_⟩
        rw [digit, if_neg (by omega), if_neg (by omega), if_pos (by omega)]
        exact ofNat_toNat_of_eq (by omega)
      next =>
        split at found
        next plus =>
          cases found
          exact ⟨by decide, plus.symm⟩
        next =>
          split at found
          next slash =>
            cases found
            exact ⟨by decide, slash.symm⟩
          next => cases found

theorem mapM_value?_eq_some_iff (chars : List Char) (values : List Nat) :
    chars.mapM value? = some values ↔
      (∀ value ∈ values, value < 64) ∧ chars = values.map digit := by
  induction chars generalizing values with
  | nil => cases values <;> simp
  | cons c rest induction =>
      rw [List.mapM_cons]
      constructor
      · intro succeeds
        rcases Option.bind_eq_some_iff.mp succeeds with ⟨first, found, remaining⟩
        rcases Option.bind_eq_some_iff.mp remaining with ⟨others, restFound, equal⟩
        cases equal
        rcases digit_of_value?_eq_some found with ⟨small, written⟩
        rcases (induction others).mp restFound with ⟨othersSmall, restWritten⟩
        exact ⟨List.forall_mem_cons.mpr ⟨small, othersSmall⟩, by simp [written, restWritten]⟩
      · rintro ⟨small, written⟩
        cases values with
        | nil => cases written
        | cons first others =>
            have smalls := List.forall_mem_cons.mp small
            rw [List.map_cons] at written
            cases written
            rw [value?_eq_some_of_lt smalls.1, (induction others).mpr ⟨smalls.2, rfl⟩]
            rfl

/-! ## Values of digits -/

/-- The values of the digits that are written for bytes. -/
def encodeValues : Bytes → List Nat
  | [] => []
  | [first] => [first.toNat / 4, first.toNat % 4 * 16]
  | [first, second] =>
      [first.toNat / 4, first.toNat % 4 * 16 + second.toNat / 16, second.toNat % 16 * 4]
  | first :: second :: third :: rest =>
      first.toNat / 4 :: (first.toNat % 4 * 16 + second.toNat / 16) ::
        (second.toNat % 16 * 4 + third.toNat / 64) :: third.toNat % 64 :: encodeValues rest

theorem encodeChars_eq (bytes : Bytes) :
    encodeChars bytes = (encodeValues bytes).map digit ++
      List.replicate (missing (encodeValues bytes).length) '=' := by
  fun_induction encodeValues bytes with
  | case1 => rfl
  | case2 first => rfl
  | case3 first second => rfl
  | case4 first second third rest induction =>
      have group : missing ((encodeValues rest).length + 4) = missing (encodeValues rest).length := by
        simp [missing]
      simp [encodeChars, induction, group]

theorem lt_of_mem_encodeValues (bytes : Bytes) : ∀ value ∈ encodeValues bytes, value < 64 := by
  fun_induction encodeValues bytes with
  | case1 => simp
  | case2 first =>
      have firstSize := first.toNat_lt
      simp
      omega
  | case3 first second =>
      have firstSize := first.toNat_lt
      have secondSize := second.toNat_lt
      simp
      omega
  | case4 first second third rest induction =>
      have firstSize := first.toNat_lt
      have secondSize := second.toNat_lt
      have thirdSize := third.toNat_lt
      simp only [List.forall_mem_cons]
      exact ⟨by omega, by omega, by omega, by omega, induction⟩

theorem ofNat_eq_of_toNat_eq (byte : UInt8) {number : Nat} (same : number = byte.toNat) :
    UInt8.ofNat number = byte := by
  rw [same, UInt8.ofNat_toNat]

theorem decodeValues_encodeValues (bytes : Bytes) :
    decodeValues (encodeValues bytes) = some bytes := by
  fun_induction encodeValues bytes with
  | case1 => rfl
  | case2 first =>
      have firstSize := first.toNat_lt
      rw [decodeValues, if_pos (by omega), ofNat_eq_of_toNat_eq first (by omega)]
  | case3 first second =>
      have firstSize := first.toNat_lt
      have secondSize := second.toNat_lt
      rw [decodeValues, if_pos (by omega), ofNat_eq_of_toNat_eq first (by omega),
        ofNat_eq_of_toNat_eq second (by omega)]
  | case4 first second third rest induction =>
      have firstSize := first.toNat_lt
      have secondSize := second.toNat_lt
      have thirdSize := third.toNat_lt
      rw [decodeValues, induction, Option.map_some, ofNat_eq_of_toNat_eq first (by omega),
        ofNat_eq_of_toNat_eq second (by omega),
        ofNat_eq_of_toNat_eq third (by omega)]

theorem eq_encodeValues_of_decodeValues {values : List Nat} {bytes : Bytes}
    (small : ∀ value ∈ values, value < 64) (decoded : decodeValues values = some bytes) :
    values = encodeValues bytes := by
  have byte : ∀ {number : Nat}, number < 256 → (UInt8.ofNat number).toNat = number := by
    intro number fits
    rw [UInt8.toNat_ofNat', Nat.mod_eq_of_lt fits]
  fun_induction decodeValues values generalizing bytes with
  | case1 =>
      cases decoded
      rfl
  | case2 => cases decoded
  | case3 first second unused =>
      cases decoded
      simp only [List.forall_mem_cons] at small
      have firstValue : (first * 4 + second / 16) / 4 = first := by omega
      have secondValue : (first * 4 + second / 16) % 4 * 16 = second := by omega
      rw [encodeValues, byte (by omega), firstValue, secondValue]
  | case4 => cases decoded
  | case5 first second third unused =>
      cases decoded
      simp only [List.forall_mem_cons] at small
      have firstValue : (first * 4 + second / 16) / 4 = first := by omega
      have secondValue :
          (first * 4 + second / 16) % 4 * 16 + (second % 16 * 16 + third / 4) / 16 = second := by
        omega
      have thirdValue : (second % 16 * 16 + third / 4) % 16 * 4 = third := by omega
      rw [encodeValues, byte (by omega), byte (by omega), firstValue, secondValue, thirdValue]
  | case6 => cases decoded
  | case7 first second third fourth rest induction =>
      rcases Option.map_eq_some_iff.mp decoded with ⟨others, restDecoded, rfl⟩
      simp only [List.forall_mem_cons] at small
      have firstValue : (first * 4 + second / 16) / 4 = first := by omega
      have secondValue :
          (first * 4 + second / 16) % 4 * 16 + (second % 16 * 16 + third / 4) / 16 = second := by
        omega
      have thirdValue :
          (second % 16 * 16 + third / 4) % 16 * 4 + (third % 4 * 64 + fourth) / 64 = third := by
        omega
      have fourthValue : (third % 4 * 64 + fourth) % 64 = fourth := by omega
      rw [encodeValues, byte (by omega), byte (by omega), byte (by omega), firstValue, secondValue,
        thirdValue, fourthValue, ← induction small.2.2.2.2 restDecoded]

/-! ## Texts -/

theorem accepts_missing (padding : Padding) (digits : Nat) :
    padding.accepts digits (missing digits) = true := by
  cases padding <;> simp [Padding.accepts]

/-- The padding that is written is all that is missing, so it is accepted either way. -/
theorem decodeChars_encodeChars (padding : Padding) (bytes : Bytes) :
    decodeChars padding (encodeChars bytes) = some bytes := by
  have small := lt_of_mem_encodeValues bytes
  have digits : ∀ c ∈ (encodeValues bytes).map digit, (c != '=') = true := by
    intro c member
    rcases List.mem_map.mp member with ⟨value, valueMember, rfl⟩
    simpa using digit_ne_padding (small value valueMember)
  have taken : (encodeChars bytes).takeWhile (· != '=') = (encodeValues bytes).map digit := by
    rw [encodeChars_eq, List.takeWhile_append_of_pos digits]
    simp
  have dropped : (encodeChars bytes).dropWhile (· != '=') =
      List.replicate (missing (encodeValues bytes).length) '=' := by
    rw [encodeChars_eq, List.dropWhile_append_of_pos digits]
    simp
  rw [decodeChars, taken, dropped]
  simp only [List.length_map, List.length_replicate]
  rw [if_pos (by simp [accepts_missing]), (mapM_value?_eq_some_iff _ _).mpr ⟨small, rfl⟩]
  exact decodeValues_encodeValues bytes

theorem decodeUnpadded?_encode (bytes : Bytes) : decodeUnpadded? (encode bytes) = some bytes := by
  rw [decodeUnpadded?, encode, String.toList_ofList, decodeChars_encodeChars]

theorem eq_encodeChars_of_decodeChars {text : List Char} {bytes : Bytes}
    (decoded : decodeChars .complete text = some bytes) : text = encodeChars bytes := by
  unfold decodeChars at decoded
  dsimp only at decoded
  split at decoded
  next accepted =>
    rcases Option.bind_eq_some_iff.mp decoded with ⟨values, found, valuesDecoded⟩
    rcases (mapM_value?_eq_some_iff _ _).mp found with ⟨small, written⟩
    rw [Bool.and_eq_true] at accepted
    have padding : text.dropWhile (· != '=') =
        List.replicate (missing (text.takeWhile (· != '=')).length) '=' := by
      refine List.eq_replicate_iff.mpr ⟨by simpa [Padding.accepts] using accepted.2, ?_⟩
      simpa using accepted.1
    have whole := List.takeWhile_append_dropWhile (p := (· != '=')) (l := text)
    rw [padding, written, List.length_map] at whole
    rw [encodeChars_eq, ← eq_encodeValues_of_decodeValues small valuesDecoded, whole]
  next => cases decoded

theorem decode?_eq_some_iff (text : String) (bytes : Bytes) :
    decode? text = some bytes ↔ text = encode bytes := by
  rw [decode?, encode]
  constructor
  · intro decoded
    rw [← eq_encodeChars_of_decodeChars decoded, String.ofList_toList]
  · rintro rfl
    rw [String.toList_ofList, decodeChars_encodeChars]

end Base64

end HostAttestation
