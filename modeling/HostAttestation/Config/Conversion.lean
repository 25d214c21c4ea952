import HostAttestation.Config.Settings
import HostAttestation.Number.Shortest

/-! # Values of configuration files

Where a text is expected a number or a truth value is taken for its written form; where a number
is expected a truth value counts as one or zero, a double is rounded, and a text is read. A whole
number from 2⁶³ on is taken for the double next to it. -/

namespace HostAttestation

namespace Conversion

def greatest : Nat := Json.capacity 64 - 1

/-- From here on a whole number is held as a double. -/
def exactLimit : Nat := Json.capacity 63

/-- The nearest number of 64 bits, a half going up; what is not defined counts as zero. -/
def numberOfDouble : Double → Nat
  | .finite false magnitude => min magnitude.rounded greatest
  | .infinite false => greatest
  | _ => 0

def isDigit (c : Char) : Bool :=
  '0' ≤ c && c ≤ '9'

def natOf (digits : List Char) : Nat :=
  digits.foldl (fun number digit => number * 10 + (digit.toNat - 48)) 0

def numberOfText? (text : String) : Option Nat :=
  let small := text.toList.map Char.toLower
  if (["true", "on", "yes"].map String.toList).contains small then some 1
  else if (["false", "off", "no"].map String.toList).contains small then some 0
  else
    let digits := if text.toList.head? = some '+' then text.toList.drop 1 else text.toList
    if digits ≠ [] ∧ digits.all isDigit ∧ natOf digits ≤ greatest then some (natOf digits)
    else none

def number : Decoding Nat
  | .number (.integer (.ofNat value)) =>
      .ok (if value < exactLimit then value else numberOfDouble (.ofQuotient false value 1))
  | .number (.decimal value) => .ok (numberOfDouble value)
  | .bool value => .ok (if value then 1 else 0)
  | .string text =>
      match numberOfText? text with
      | some value => .ok value
      | none => .error .malformed
  | _ => .error .malformed

def textOfInteger (value : Int) : String :=
  if value < exactLimit then toString value else (Double.ofQuotient false value.toNat 1).text

def text : Decoding String
  | .string text => .ok text
  | .number (.integer value) => .ok (textOfInteger value)
  | .number (.decimal value) => .ok value.text
  | .bool value => .ok (if value then "true" else "false")
  | _ => .error .malformed

/-- Values are converted, and a list may be longer than the record that it stands for. -/
def dialect : Settings.Dialect :=
  ⟨text, number, true⟩

end Conversion

end HostAttestation
