import HostAttestation.Config.Toml.Moment
import HostAttestation.Json.Basic

/-! # Numbers of configuration text

An underscore may stand between two digits. A whole number fits into 64 bits with a sign; a number
with a fraction or an exponent is the nearest double, and may only fall below all doubles, not
exceed them. -/

namespace HostAttestation

namespace Toml

namespace Numeral

open Moment (isDigit natOf)

/-- Digits, and single underscores between them. -/
def digitsBehind (isDigit : Char → Bool) : List Char → List Char × List Char
  | '_' :: digit :: rest =>
      if isDigit digit then
        let (digits, rest) := digitsBehind isDigit rest
        (digit :: digits, rest)
      else ([], '_' :: digit :: rest)
  | digit :: rest =>
      if isDigit digit then
        let (digits, rest) := digitsBehind isDigit rest
        (digit :: digits, rest)
      else ([], digit :: rest)
  | [] => ([], [])

def digits? (isDigit : Char → Bool) (text : List Char) : Option (List Char × List Char) :=
  match text with
  | first :: rest =>
      if isDigit first then
        let (digits, rest) := digitsBehind isDigit rest
        some (first :: digits, rest)
      else none
  | [] => none

/-- A sign, and what follows it. -/
def sign (text : List Char) : Bool × List Char :=
  match text with
  | '+' :: rest => (false, rest)
  | '-' :: rest => (true, rest)
  | _ => (false, text)

/-- Decimal digits without leading zeros. -/
def whole? (text : List Char) : Option (List Char × List Char) :=
  match text with
  | '0' :: rest => some (['0'], rest)
  | _ => digits? isDigit text

/-! ## Whole numbers -/

def isBelow (base : Nat) (c : Char) : Bool :=
  (Hex.value? c).any (· < base)

def valueIn (base : Nat) (digits : List Char) : Nat :=
  digits.foldl (fun number digit => number * base + (Hex.value? digit).getD 0) 0

def ranged? (value : Int) : Option Json :=
  if -Json.capacity 63 ≤ value ∧ value < Json.capacity 63 then some (.int value) else none

def radix? (base : Nat) (text : List Char) : Option (Json × List Char) :=
  match digits? (isBelow base) text with
  | some (digits, rest) => (ranged? (valueIn base digits)).map fun value => (value, rest)
  | none => none

def decimal? (text : List Char) : Option (Json × List Char) :=
  let (negative, unsigned) := sign text
  match whole? unsigned with
  | some (digits, rest) =>
      let magnitude : Int := natOf digits
      (ranged? (if negative then -magnitude else magnitude)).map fun value => (value, rest)
  | none => none

def integer? (text : List Char) : Option (Json × List Char) :=
  match text with
  | '0' :: 'x' :: rest => radix? 16 rest
  | '0' :: 'o' :: rest => radix? 8 rest
  | '0' :: 'b' :: rest => radix? 2 rest
  | _ => decimal? text

/-! ## Doubles -/

def fraction? (text : List Char) : Option (List Char × List Char) :=
  match text with
  | '.' :: rest => digits? isDigit rest
  | _ => none

def exponent? (text : List Char) : Option (Int × List Char) :=
  match text with
  | mark :: rest =>
      if mark = 'e' || mark = 'E' then
        let (negative, unsigned) := sign rest
        (digits? isDigit unsigned).map fun (digits, rest) =>
          let magnitude : Int := natOf digits
          (if negative then -magnitude else magnitude, rest)
      else none
  | [] => none

/-- The double nearest to digits at a power of ten. Far from the range of doubles the digits do
not count. -/
def double (negative : Bool) (digits : List Char) (exponent : Int) : Double :=
  let significand := natOf digits
  let highest : Int := (digits.dropWhile (· = '0')).length + exponent
  if significand = 0 ∨ highest < -400 then .finite negative .zero
  else if 400 < highest then .infinite negative
  else Double.ofQuotient negative (significand * Nat.pow 10 exponent.toNat)
    (Nat.pow 10 (-exponent).toNat)

/-- A double that is out of range on the positive side is no number. -/
def inRange? (value : Double) : Option Json :=
  if value = .infinite false then none else some (.number (.decimal value))

def decimalPoint? (text : List Char) : Option (Json × List Char) := do
  let (negative, unsigned) := sign text
  let (digits, rest) ← whole? unsigned
  match fraction? rest with
  | some (places, rest) =>
      let (exponent, rest) := (exponent? rest).getD (0, rest)
      let value ← inRange? (double negative (digits ++ places) (exponent - places.length))
      pure (value, rest)
  | none =>
      let (exponent, rest) ← exponent? rest
      let value ← inRange? (double negative digits exponent)
      pure (value, rest)

/-- Doubles that are written as words. -/
def special? (text : List Char) : Option (Json × List Char) :=
  let (negative, unsigned) := sign text
  match unsigned with
  | 'i' :: 'n' :: 'f' :: rest => some (.number (.decimal (.infinite negative)), rest)
  | 'n' :: 'a' :: 'n' :: rest => some (.number (.decimal .undefined), rest)
  | _ => none

/-! ## Anything that begins like a number -/

def read? (text : List Char) : Option (Json × List Char) :=
  match Moment.read? text with
  | some (moment, rest) => some (.string moment.text, rest)
  | none =>
      match decimalPoint? text with
      | some result => some result
      | none =>
          match special? text with
          | some result => some result
          | none => integer? text

end Numeral

end Toml

end HostAttestation
