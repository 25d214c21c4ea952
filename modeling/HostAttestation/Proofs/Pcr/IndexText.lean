import HostAttestation.Proofs.Json.Fields
import HostAttestation.Proofs.Pcr.Value
import Mathlib.Data.List.Induction
import Mathlib.Data.Nat.Digits.Defs

/-! # Texts and integers that are indexes

An index is named by its decimal digits, with any number of zeros before them, and perhaps by the
prefix of a register's name before these. A document holds such a text or the integer itself.
Nothing else is an index, however it would look in the words of 64, 32 and 8 bits through which a
number is narrowed to one. -/

namespace HostAttestation

namespace PcrIndex

/-! ## Decimal texts -/

/-- Decimal digits, the most significant one first, that make up a number. -/
def IsDecimal (chars : List Char) (value : Nat) : Prop :=
  ∃ digits : List Nat, digits ≠ [] ∧ (∀ digit ∈ digits, digit < 10) ∧
    chars = digits.map Nat.digitChar ∧ Nat.ofDigits 10 digits.reverse = value

/-- A text that names a number. -/
def Names (text : String) (value : Nat) : Prop :=
  ∃ chars, IsDecimal chars value ∧ (text.toList = chars ∨ text.toList = namePrefix ++ chars)

theorem isDigit_iff (c : Char) : isDigit c ↔ 48 ≤ c.toNat ∧ c.toNat ≤ 57 := by
  rw [isDigit, Bool.and_eq_true, decide_eq_true_eq, decide_eq_true_eq]
  rfl

theorem isDigit_digitChar {digit : Nat} (small : digit < 10) : isDigit (Nat.digitChar digit) := by
  rw [isDigit_iff, Nat.toNat_digitChar_of_lt_ten small]
  omega

theorem digitChar_toNat {c : Char} (digit : isDigit c) : Nat.digitChar (c.toNat - 48) = c := by
  rcases (isDigit_iff c).mp digit with ⟨low, high⟩
  apply Char.toNat_inj.mp
  rw [Nat.toNat_digitChar_of_lt_ten (by omega)]
  omega

theorem number_append (chars : List Char) (c : Char) :
    number (chars ++ [c]) = number chars * 10 + (c.toNat - 48) := by
  rw [number, List.foldl_append]
  rfl

theorem number_map_digitChar {digits : List Nat} (small : ∀ digit ∈ digits, digit < 10) :
    number (digits.map Nat.digitChar) = Nat.ofDigits 10 digits.reverse := by
  induction digits using List.reverseRecOn with
  | nil => rfl
  | append_singleton digits digit induction =>
      have last : digit < 10 := small digit (by simp)
      rw [List.map_append, List.map_singleton, number_append,
        induction fun other member => small other (List.mem_append_left _ member),
        List.reverse_append, List.reverse_singleton, List.singleton_append, Nat.ofDigits_cons,
        Nat.toNat_digitChar_of_lt_ten last]
      omega

theorem isDecimal_iff (chars : List Char) (value : Nat) :
    IsDecimal chars value ↔ (chars ≠ [] ∧ chars.all isDigit) ∧ number chars = value := by
  constructor
  · rintro ⟨digits, nonempty, small, rfl, rfl⟩
    refine ⟨⟨by simpa using nonempty, ?_⟩, number_map_digitChar small⟩
    rw [List.all_map, List.all_eq_true]
    exact fun digit member => isDigit_digitChar (small digit member)
  · rintro ⟨⟨nonempty, digits⟩, rfl⟩
    have single := List.all_eq_true.mp digits
    have small : ∀ digit ∈ chars.map fun c => c.toNat - 48, digit < 10 := by
      intro digit member
      rcases List.mem_map.mp member with ⟨c, listed, rfl⟩
      have bounds := (isDigit_iff c).mp (single c listed)
      omega
    have written : (chars.map fun c => c.toNat - 48).map Nat.digitChar = chars := by
      rw [List.map_map]
      exact (List.map_congr_left fun c listed => digitChar_toNat (single c listed)).trans
        (List.map_id chars)
    refine ⟨_, by simpa using nonempty, small, written.symm, ?_⟩
    rw [← number_map_digitChar small, written]

/-! ## Zeros before a number -/

/-- By induction on the digits from the last one, a number being nothing but zeros so far or the
digits of a positive number behind them. -/
theorem exists_map_digitChar_eq {digits : List Nat} (nonempty : digits ≠ [])
    (small : ∀ digit ∈ digits, digit < 10) :
    ∃ zeros, digits.map Nat.digitChar =
      List.replicate zeros '0' ++ Nat.toDigits 10 (Nat.ofDigits 10 digits.reverse) := by
  induction digits using List.reverseRecOn with
  | nil => exact absurd rfl nonempty
  | append_singleton digits digit induction =>
      have last : digit < 10 := small digit (by simp)
      have others : ∀ other ∈ digits, other < 10 := fun other member =>
        small other (List.mem_append_left _ member)
      rw [List.map_append, List.map_singleton, List.reverse_append, List.reverse_singleton,
        List.singleton_append, Nat.ofDigits_cons, ← Nat.toDigits_of_lt_base last]
      by_cases first : digits = []
      · exact ⟨0, by simp [first]⟩
      · rcases induction first others with ⟨zeros, written⟩
        rw [written]
        rcases Nat.eq_zero_or_pos (Nat.ofDigits 10 digits.reverse) with none | positive
        · refine ⟨zeros + 1, ?_⟩
          rw [none, Nat.toDigits_zero, List.replicate_succ', Nat.mul_zero, Nat.add_zero]
        · refine ⟨zeros, ?_⟩
          rw [List.append_assoc, Nat.toDigits_append_toDigits (by decide) positive last,
            Nat.add_comm]

theorem number_eq_ofDigitChars (chars : List Char) :
    number chars = Nat.ofDigitChars 10 chars 0 := by
  rw [Nat.ofDigitChars_eq_foldl, number]
  simp only [Nat.mul_comm 10]
  rfl

theorem number_replicate_append (zeros : Nat) (chars : List Char) :
    number (List.replicate zeros '0' ++ chars) = number chars := by
  induction zeros with
  | zero => rfl
  | succ zeros induction => exact induction

theorem isDecimal_iff_padded (chars : List Char) (value : Nat) :
    IsDecimal chars value ↔
      ∃ zeros, chars = List.replicate zeros '0' ++ Nat.toDigits 10 value := by
  constructor
  · rintro ⟨digits, nonempty, small, rfl, rfl⟩
    exact exists_map_digitChar_eq nonempty small
  · rintro ⟨zeros, rfl⟩
    refine (isDecimal_iff _ value).mpr ⟨⟨by simp [Nat.toDigits_ne_nil], ?_⟩, ?_⟩
    · rw [List.all_append, Bool.and_eq_true, List.all_eq_true, List.all_eq_true]
      refine ⟨fun c member => ?_, fun c member => ?_⟩
      · rw [(List.mem_replicate.mp member).2]
        decide
      · exact Nat.isDigit_of_mem_toDigits (by decide) (by decide) member
    · rw [number_replicate_append, number_eq_ofDigitChars, Nat.ofDigitChars_ten_toDigits]

/-! ## Names -/

/-- What stands behind the prefix, or the whole text if it has none. -/
def unprefixed (chars : List Char) : List Char :=
  if namePrefix.isPrefixOf chars then chars.drop namePrefix.length else chars

theorem not_isDecimal_prefixed (chars : List Char) (value : Nat) :
    ¬IsDecimal (namePrefix ++ chars) value := by
  rw [isDecimal_iff]
  rintro ⟨⟨_, digits⟩, _⟩
  have first := List.all_eq_true.mp digits 'p' (by simp [namePrefix])
  exact absurd first (by decide)

theorem names_iff (text : String) (value : Nat) :
    Names text value ↔ IsDecimal (unprefixed text.toList) value := by
  unfold unprefixed
  by_cases named : namePrefix <+: text.toList
  · rw [if_pos (List.isPrefixOf_iff_prefix.mpr named)]
    rcases named with ⟨behind, split⟩
    rw [← split, List.drop_left]
    constructor
    · rintro ⟨chars, decimal, plain | whole⟩
      · rw [← plain, ← split] at decimal
        exact absurd decimal (not_isDecimal_prefixed behind value)
      · rw [List.append_cancel_left (split.trans whole)]
        exact decimal
    · intro decimal
      exact ⟨behind, decimal, .inr split.symm⟩
  · rw [if_neg (mt List.isPrefixOf_iff_prefix.mp named)]
    constructor
    · rintro ⟨chars, decimal, plain | whole⟩
      · rw [plain]
        exact decimal
      · exact absurd ⟨chars, whole.symm⟩ named
    · intro decimal
      exact ⟨_, decimal, .inl rfl⟩

/-- The texts that name a number differ in the prefix and in the zeros before the number. -/
theorem names_iff_padded (text : String) (value : Nat) :
    Names text value ↔ ∃ zeros,
      text.toList = List.replicate zeros '0' ++ Nat.toDigits 10 value ∨
        text.toList = namePrefix ++ (List.replicate zeros '0' ++ Nat.toDigits 10 value) := by
  simp only [Names, isDecimal_iff_padded]
  constructor
  · rintro ⟨_, ⟨zeros, rfl⟩, written⟩
    exact ⟨zeros, written⟩
  · rintro ⟨zeros, written⟩
    exact ⟨_, ⟨zeros, rfl⟩, written⟩

theorem parse?_eq (text : String) :
    parse? text =
      if unprefixed text.toList ≠ [] ∧ (unprefixed text.toList).all isDigit then
        ofNat? (number (unprefixed text.toList))
      else none :=
  rfl

theorem parse?_eq_some_iff (text : String) (index : PcrIndex) :
    parse? text = some index ↔ Names text index.value := by
  rw [names_iff, isDecimal_iff, parse?_eq]
  by_cases digits : unprefixed text.toList ≠ [] ∧ (unprefixed text.toList).all isDigit
  · rw [if_pos digits, ofNat?_eq_some_iff, and_iff_right digits]
  · rw [if_neg digits]
    exact iff_of_false nofun fun decimal => digits decimal.1

theorem parse_eq_ok_iff (text : String) (index : PcrIndex) :
    parse text = .ok index ↔ Names text index.value := by
  rw [← parse?_eq_some_iff, parse]
  cases parse? text <;> simp

theorem parse_eq_error_iff (text : String) (found : Violation) :
    parse text = .error found ↔
      found = .invalidIndex text ∧ ∀ index : PcrIndex, ¬Names text index.value := by
  simp only [← parse?_eq_some_iff, parse]
  cases parse? text <;> simp [eq_comm]

/-! ## Documents -/

theorem read_integer (value : Int) :
    read (.number (.integer value)) =
      if -Json.capacity 63 ≤ value ∧ value ≤ Json.capacity 63 - 1 then
        (ofInt value).mapError .refused
      else .error .malformed := by
  by_cases fits : -(Json.capacity 63 : Int) ≤ value ∧ value ≤ Json.capacity 63 - 1
  · rw [if_pos fits]
    exact Json.Reader.checked_of_read (if_pos fits) ofInt
  · have given : Json.Reader.int64 (.number (.integer value)) =
        .error (Json.Fault.malformed : Json.Fault Violation) := if_neg fits
    rw [if_neg fits, read, Json.Reader.checked, given]
    rfl

theorem read_text (text : String) : read (.string text) = (parse text).mapError .refused := by
  have given : Json.Reader.text (.string text) =
      (.ok text : Except (Json.Fault Violation) String) := rfl
  exact Json.Reader.checked_of_read given parse

theorem read_eq_ok_iff (source : Json.Source) (index : PcrIndex) :
    read source = .ok index ↔ source = .number (.integer index.value) ∨
      ∃ text, source = .string text ∧ Names text index.value := by
  cases source with
  | number value =>
      cases value with
      | integer value =>
          rw [read_integer]
          by_cases fits : -(Json.capacity 63 : Int) ≤ value ∧ value ≤ Json.capacity 63 - 1
          · rw [if_pos fits, Outcome.mapError_eq_ok_iff, ofInt_eq_ok_iff]
            simp
          · have below := index.below
            have wide : pcrCount ≤ Json.capacity 63 := by decide
            have other : value ≠ index.value := by omega
            rw [if_neg fits]
            simp [other]
      | decimal value => exact iff_of_false nofun (by simp)
  | string text =>
      rw [read_text, Outcome.mapError_eq_ok_iff, parse_eq_ok_iff]
      simp
  | null | bool | array | object | unreadable | broken => exact iff_of_false nofun (by simp)

theorem ofInt_natCast (value : Nat) :
    ofInt value = match ofNat? value with
      | some index => .ok index
      | none => .error (.invalidIndex (toString value)) :=
  rfl

theorem ofInt_of_no_index {value : Int} (other : ∀ index : PcrIndex, value ≠ index.value) :
    ofInt value = .error (.invalidIndex (toString value)) := by
  rcases Outcome.ok_or_error (ofInt value) with ⟨index, read⟩ | ⟨_, refused⟩
  · exact absurd ((ofInt_eq_ok_iff value index).mp read) (other index)
  · unfold ofInt at refused ⊢
    cases found : ofInt? value with
    | some index => simp [found] at refused
    | none => rfl

theorem read_toSource_eq_ok_iff (value : Json) (index : PcrIndex) :
    read value.toSource = .ok index ↔ value = .int index.value ∨
      ∃ text, value = .string text ∧ Names text index.value := by
  rw [read_eq_ok_iff]
  cases value <;> simp [Json.toSource, Json.int]

/-! ## Words of fixed width

A text is first taken into 32 bits, an integer of 64 bits is cut down to 32; what is small enough
is cut down to 8 bits. -/

namespace Words

/-- A number in 32 bits, if it fits. -/
def word? (value : Nat) : Option UInt32 :=
  if value < UInt32.size then some (UInt32.ofNat value) else none

/-- Both the product and the sum must fit. -/
def takeDigit (word : UInt32) (digit : Char) : Option UInt32 := do
  let product ← word? (word.toNat * 10)
  word? (product.toNat + (digit.toNat - 48))

def ofDigits? (digits : List Char) : Option UInt32 :=
  digits.foldlM takeDigit 0

/-- The lowest byte of a word that is small enough. -/
def byteOf (word : UInt32) : Except Violation UInt8 :=
  if UInt32.ofNat pcrCount ≤ word then .error (.invalidIndex (toString word.toNat))
  else .ok word.toUInt8

def parse (text : String) : Except Violation UInt8 :=
  let digits := unprefixed text.toList
  if digits ≠ [] ∧ digits.all isDigit then
    match ofDigits? digits with
    | some word => (byteOf word).mapError fun _ => .invalidIndex text
    | none => .error (.invalidIndex text)
  else .error (.invalidIndex text)

def ofLong (number : Int64) : Except Violation UInt8 :=
  if 0 ≤ number.toInt ∧ number.toInt < UInt32.size then byteOf number.toUInt64.toUInt32
  else .error (.invalidIndex (toString number.toInt))

def read : Json.Source → Except (Json.Fault Violation) UInt8
  | .number (.integer value) =>
      if -Json.capacity 63 ≤ value ∧ value ≤ Json.capacity 63 - 1 then
        (ofLong (Int64.ofInt value)).mapError .refused
      else .error .malformed
  | .string text => (parse text).mapError .refused
  | _ => .error .malformed

theorem word?_of_lt {value : Nat} (fits : value < UInt32.size) :
    ∃ word, word? value = some word ∧ word.toNat = value :=
  ⟨UInt32.ofNat value, if_pos fits, UInt32.toNat_ofNat_of_lt' fits⟩

theorem word?_of_le {value : Nat} (large : UInt32.size ≤ value) : word? value = none :=
  if_neg (Nat.not_lt.mpr large)

theorem takeDigit_eq (word : UInt32) (digit : Char) :
    takeDigit word digit = word? (word.toNat * 10 + (digit.toNat - 48)) := by
  unfold takeDigit
  rcases Nat.lt_or_ge (word.toNat * 10) UInt32.size with fits | large
  · rcases word?_of_lt fits with ⟨product, taken, same⟩
    rw [taken, ← same]
    rfl
  · rw [word?_of_le large, word?_of_le (Nat.le_add_right_of_le large)]
    rfl

theorem le_foldl_digits (digits : List Char) (value : Nat) :
    value ≤ digits.foldl (fun value digit => value * 10 + (digit.toNat - 48)) value := by
  induction digits generalizing value with
  | nil => exact Nat.le_refl value
  | cons digit rest induction =>
      have grown : value ≤ value * 10 + (digit.toNat - 48) := by omega
      exact Nat.le_trans grown (induction _)

/-- By induction on the digits; a number that is too large gets no smaller by more digits. -/
theorem foldlM_takeDigit_eq (digits : List Char) (word : UInt32) :
    digits.foldlM takeDigit word =
      word? (digits.foldl (fun value digit => value * 10 + (digit.toNat - 48)) word.toNat) := by
  induction digits generalizing word with
  | nil =>
      rw [List.foldl_nil, word?, if_pos word.toNat_lt, UInt32.ofNat_toNat]
      rfl
  | cons digit rest induction =>
      rw [List.foldlM_cons, List.foldl_cons, takeDigit_eq]
      rcases Nat.lt_or_ge (word.toNat * 10 + (digit.toNat - 48)) UInt32.size with fits | large
      · rcases word?_of_lt fits with ⟨next, taken, same⟩
        rw [taken, ← same]
        exact induction next
      · rw [word?_of_le large, word?_of_le (Nat.le_trans large (le_foldl_digits rest _))]
        rfl

theorem ofDigits?_eq (digits : List Char) : ofDigits? digits = word? (number digits) :=
  foldlM_takeDigit_eq digits 0

theorem byteOf_eq (word : UInt32) :
    (byteOf word).map UInt8.toNat = (ofInt word.toNat).map PcrIndex.value := by
  have limit : UInt32.ofNat pcrCount ≤ word ↔ pcrCount ≤ word.toNat := UInt32.le_iff_toNat_le
  rw [ofInt_natCast]
  by_cases below : word.toNat < pcrCount
  · have byte : word.toNat % 2 ^ 8 = word.toNat := by
      unfold pcrCount at below
      omega
    rw [byteOf, if_neg (mt limit.mp (Nat.not_le.mpr below)), ofNat?, dif_pos below]
    exact congrArg Except.ok ((UInt32.toNat_toUInt8 word).trans byte)
  · rw [byteOf, if_pos (limit.mpr (Nat.le_of_not_lt below)), ofNat?, dif_neg below]
    rfl

theorem parse_eq (text : String) :
    (parse text).map UInt8.toNat = (PcrIndex.parse text).map PcrIndex.value := by
  unfold parse PcrIndex.parse
  dsimp only
  rw [parse?_eq]
  by_cases digits : unprefixed text.toList ≠ [] ∧ (unprefixed text.toList).all isDigit
  · rw [if_pos digits, if_pos digits, ofDigits?_eq]
    generalize number (unprefixed text.toList) = value
    rcases Nat.lt_or_ge value UInt32.size with fits | large
    · rcases word?_of_lt fits with ⟨word, taken, rfl⟩
      rw [taken]
      dsimp only
      rw [Outcome.map_mapError, byteOf_eq, ofInt_natCast]
      cases ofNat? word.toNat <;> rfl
    · have beyond : ¬value < pcrCount := by
        have limit : pcrCount ≤ UInt32.size := by decide
        omega
      rw [word?_of_le large, ofNat?, dif_neg beyond]
      rfl
  · rw [if_neg digits, if_neg digits]
    rfl

theorem toNat_toUInt32 {number : Int64} (least : 0 ≤ number.toInt)
    (most : number.toInt < UInt32.size) :
    (number.toUInt64.toUInt32.toNat : Int) = number.toInt := by
  have signed : number.toInt = number.toBitVec.toInt := rfl
  have unsigned : number.toUInt64.toNat = number.toBitVec.toNat := rfl
  have size : UInt32.size = 2 ^ 32 := rfl
  rw [signed, BitVec.toInt_eq_toNat_cond] at least most ⊢
  rw [UInt64.toNat_toUInt32, unsigned]
  have bound := number.toBitVec.isLt
  split at least
  · rw [if_pos ‹_›] at most ⊢
    omega
  · omega

theorem ofLong_eq (number : Int64) :
    (ofLong number).map UInt8.toNat = (ofInt number.toInt).map PcrIndex.value := by
  unfold ofLong
  by_cases fits : 0 ≤ number.toInt ∧ number.toInt < UInt32.size
  · rw [if_pos fits, byteOf_eq, toNat_toUInt32 fits.1 fits.2]
  · have other : ∀ index : PcrIndex, number.toInt ≠ index.value := by
      intro index same
      have below : index.value < 24 := index.below
      have size : UInt32.size = 4294967296 := rfl
      omega
    rw [if_neg fits, ofInt_of_no_index other]
    rfl

theorem read_eq (source : Json.Source) :
    (read source).map UInt8.toNat = (PcrIndex.read source).map PcrIndex.value := by
  cases source with
  | number value =>
      cases value with
      | integer value =>
          rw [read_integer, read]
          by_cases fits : -(Json.capacity 63 : Int) ≤ value ∧ value ≤ Json.capacity 63 - 1
          · have capacity : (Json.capacity 63 : Int) = 2 ^ 63 := rfl
            have same : (Int64.ofInt value).toInt = value :=
              Int64.toInt_ofInt_of_le (by omega) (by omega)
            rw [if_pos fits, if_pos fits, Outcome.map_mapError, Outcome.map_mapError, ofLong_eq, same]
          · rw [if_neg fits, if_neg fits]
            rfl
      | decimal value => rfl
  | string text => rw [read_text, read, Outcome.map_mapError, Outcome.map_mapError, parse_eq]
  | null | bool | array | object | unreadable | broken => rfl

end Words

/-- Exactly the integers of the indexes and the texts that name them are read, from texts and from
documents, and any other text is refused by itself. Narrowing a number word by word lets no other
number pass. -/
theorem exact_of_text_or_integer :
    (∀ text index, parse text = .ok index ↔ Names text index.value) ∧
    (∀ text found, parse text = .error found ↔
      found = .invalidIndex text ∧ ∀ index : PcrIndex, ¬Names text index.value) ∧
    (∀ text value, Names text value ↔ ∃ zeros,
      text.toList = List.replicate zeros '0' ++ Nat.toDigits 10 value ∨
        text.toList = namePrefix ++ (List.replicate zeros '0' ++ Nat.toDigits 10 value)) ∧
    (∀ source index, read source = .ok index ↔ source = .number (.integer index.value) ∨
      ∃ text, source = .string text ∧ Names text index.value) ∧
    (∀ value : Json, ∀ index, read value.toSource = .ok index ↔ value = .int index.value ∨
      ∃ text, value = .string text ∧ Names text index.value) ∧
    (∀ text, (Words.parse text).map UInt8.toNat = (parse text).map PcrIndex.value) ∧
    ∀ source, (Words.read source).map UInt8.toNat = (read source).map PcrIndex.value :=
  ⟨parse_eq_ok_iff, parse_eq_error_iff, names_iff_padded, read_eq_ok_iff,
    read_toSource_eq_ok_iff, Words.parse_eq, Words.read_eq⟩

example : (parse "pcr_0017").map PcrIndex.value = .ok 17 := by decide

-- the number is one more than 32 bits can hold
example : parse "4294967296" = .error (.invalidIndex "4294967296") := by decide

end PcrIndex

end HostAttestation
