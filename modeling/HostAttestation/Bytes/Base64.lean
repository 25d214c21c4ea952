import HostAttestation.Bytes.Hex

/-! # Base64 text

The standard alphabet, without blanks. The unused bits of the last digit must be zero. A text
that stands on its own must be padded to a multiple of four; inside a document the padding may
also be partial or absent, but never longer than what is missing. Text over several lines is read
by a rule of its own: blanks count for nothing, unused bits may be set, and there may be up to two
characters of padding whatever is missing. -/

namespace HostAttestation

namespace Base64

/-- How much of the padding a text has to carry. -/
inductive Padding
  | complete
  | atMost
  deriving DecidableEq, Repr

def digit (value : Nat) : Char :=
  if value < 26 then Char.ofNat (65 + value)
  else if value < 52 then Char.ofNat (71 + value)
  else if value < 62 then Char.ofNat (value - 4)
  else if value = 62 then '+'
  else '/'

def value? (digit : Char) : Option Nat :=
  if 'A' ≤ digit ∧ digit ≤ 'Z' then some (digit.toNat - 65)
  else if 'a' ≤ digit ∧ digit ≤ 'z' then some (digit.toNat - 71)
  else if '0' ≤ digit ∧ digit ≤ '9' then some (digit.toNat + 4)
  else if digit = '+' then some 62
  else if digit = '/' then some 63
  else none

/-- Three bytes become four digits; a shorter rest is filled up with padding. -/
def encodeChars : Bytes → List Char
  | [] => []
  | [first] =>
      [digit (first.toNat / 4), digit (first.toNat % 4 * 16), '=', '=']
  | [first, second] =>
      [digit (first.toNat / 4), digit (first.toNat % 4 * 16 + second.toNat / 16),
        digit (second.toNat % 16 * 4), '=']
  | first :: second :: third :: rest =>
      digit (first.toNat / 4) :: digit (first.toNat % 4 * 16 + second.toNat / 16) ::
        digit (second.toNat % 16 * 4 + third.toNat / 64) :: digit (third.toNat % 64) ::
        encodeChars rest

def encode (bytes : Bytes) : String :=
  String.ofList (encodeChars bytes)

/-- The bytes of a sequence of digit values. A single digit left over holds no byte. -/
def decodeValues : List Nat → Option Bytes
  | [] => some []
  | [_] => none
  | [first, second] =>
      if second % 16 = 0 then some [UInt8.ofNat (first * 4 + second / 16)] else none
  | [first, second, third] =>
      if third % 4 = 0 then
        some [UInt8.ofNat (first * 4 + second / 16), UInt8.ofNat (second % 16 * 16 + third / 4)]
      else none
  | first :: second :: third :: fourth :: rest =>
      (decodeValues rest).map fun bytes =>
        UInt8.ofNat (first * 4 + second / 16) :: UInt8.ofNat (second % 16 * 16 + third / 4) ::
          UInt8.ofNat (third % 4 * 64 + fourth) :: bytes

/-- The padding characters missing after a number of digits. -/
def missing (digits : Nat) : Nat :=
  (4 - digits % 4) % 4

def Padding.accepts (padding : Padding) (digits given : Nat) : Bool :=
  match padding with
  | .complete => given == missing digits
  | .atMost => given ≤ missing digits

def decodeChars (padding : Padding) (text : List Char) : Option Bytes :=
  let digits := text.takeWhile (· != '=')
  let given := text.dropWhile (· != '=')
  if given.all (· == '=') && padding.accepts digits.length given.length then
    digits.mapM value? >>= decodeValues
  else none

/-- Reads a text that stands on its own. -/
def decode? (text : String) : Option Bytes :=
  decodeChars .complete text.toList

/-- Reads a text inside a document. -/
def decodeUnpadded? (text : String) : Option Bytes :=
  decodeChars .atMost text.toList

/-! ## Text over several lines -/

def isBlank (c : Char) : Bool :=
  c = ' ' || ('\t' ≤ c && c ≤ '\r')

/-- The bytes of a sequence of digit values, the unused bits of the last one being dropped. -/
def decodeDropping (values : List Nat) : Option Bytes :=
  if values.length % 4 = 1 then none
  else
    (decodeValues (values ++ List.replicate (missing values.length) 0)).map
      (·.take (values.length * 6 / 8))

def decodeLines? (text : List Char) : Option Bytes :=
  let characters := text.filter (!isBlank ·)
  let digits := characters.takeWhile (· != '=')
  let given := characters.dropWhile (· != '=')
  if given.all (· == '=') && given.length ≤ 2 then digits.mapM value? >>= decodeDropping
  else none

end Base64

end HostAttestation
