/-! # Hexadecimal text

Two lower case digits a byte when written; either case when read, an even number of digits, and
nothing else. Main statement: reading what was written gives the bytes back. -/

namespace HostAttestation

/-- A byte string. -/
abbrev Bytes := List UInt8

namespace Hex

def digit (value : Nat) : Char :=
  if value < 10 then Char.ofNat (48 + value) else Char.ofNat (87 + value)

/-- The value of a digit of either case. -/
def value? (digit : Char) : Option Nat :=
  if '0' ≤ digit ∧ digit ≤ '9' then some (digit.toNat - 48)
  else if 'a' ≤ digit ∧ digit ≤ 'f' then some (digit.toNat - 87)
  else if 'A' ≤ digit ∧ digit ≤ 'F' then some (digit.toNat - 55)
  else none

def encodeByte (byte : UInt8) : List Char :=
  [digit (byte.toNat / 16), digit (byte.toNat % 16)]

def encodeChars (bytes : Bytes) : List Char :=
  bytes.flatMap encodeByte

def encode (bytes : Bytes) : String :=
  String.ofList (encodeChars bytes)

def decodeChars : List Char → Option Bytes
  | [] => some []
  | [_] => none
  | high :: low :: rest =>
      match value? high, value? low with
      | some upper, some lower =>
          (decodeChars rest).map (UInt8.ofNat (16 * upper + lower) :: ·)
      | _, _ => none

def decode? (text : String) : Option Bytes :=
  decodeChars text.toList

theorem value?_digit (value : Nat) (small : value < 16) : value? (digit value) = some value := by
  have all : ∀ value ∈ List.range 16, value? (digit value) = some value := by decide
  exact all value (List.mem_range.mpr small)

theorem decodeChars_encodeChars (bytes : Bytes) : decodeChars (encodeChars bytes) = some bytes := by
  induction bytes with
  | nil => rfl
  | cons byte rest induction =>
      have size := byte.toNat_lt
      have recombined : 16 * (byte.toNat / 16) + byte.toNat % 16 = byte.toNat := by omega
      have step : decodeChars (encodeChars (byte :: rest)) =
          (decodeChars (encodeChars rest)).map
            (UInt8.ofNat (16 * (byte.toNat / 16) + byte.toNat % 16) :: ·) := by
        simp [encodeChars, encodeByte, decodeChars, value?_digit (byte.toNat / 16) (by omega),
          value?_digit (byte.toNat % 16) (by omega)]
      rw [step, induction, recombined]
      simp

theorem decode?_encode (bytes : Bytes) : decode? (encode bytes) = some bytes := by
  simp [decode?, encode, decodeChars_encodeChars]

end Hex

end HostAttestation
