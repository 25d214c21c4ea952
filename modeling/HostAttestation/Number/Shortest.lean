import HostAttestation.Number.Double

/-! # Doubles as decimals

A double is written with the fewest digits that read back to it; of two texts of that length the
nearer one is taken, of two equally near the greater. Point and zeros are written out, however far
the digits are from the point. -/

namespace HostAttestation

namespace Magnitude

/-- A whole number of units of a power of ten. -/
structure Decimal where
  digits : Nat
  exponent : Int
  deriving DecidableEq, Repr

/-- A decimal against a number of units of a power of two. -/
def compareScaled (digits : Nat) (exponent : Int) (units : Nat) (binary : Int) : Ordering :=
  compare (digits * Nat.pow 10 exponent.toNat * Nat.pow 2 (-binary).toNat)
    (units * Nat.pow 2 binary.toNat * Nat.pow 10 (-exponent).toNat)

/-- Below a power of two the next magnitude is half as far away as above it. -/
def isNarrowBelow (magnitude : Magnitude) : Bool :=
  2 * magnitude.significand = significandLimit && leastExponent < magnitude.exponent

/-- Whether a decimal lies among the numbers that are rounded to a magnitude. -/
def readsBack (magnitude : Magnitude) (decimal : Decimal) : Bool :=
  let low := 4 * magnitude.significand - if magnitude.isNarrowBelow then 1 else 2
  let high := 4 * magnitude.significand + 2
  let even := magnitude.significand % 2 == 0
  let fromLow := compareScaled decimal.digits decimal.exponent low (magnitude.exponent - 2)
  let fromHigh := compareScaled decimal.digits decimal.exponent high (magnitude.exponent - 2)
  (fromLow == .gt || (even && fromLow == .eq)) && (fromHigh == .lt || (even && fromHigh == .eq))

def digitCount (number : Nat) : Nat :=
  (Nat.toDigits 10 number).length

/-- The least power of ten above a magnitude. -/
def scale (magnitude : Magnitude) : Int :=
  let (numerator, denominator) := magnitude.toQuotient
  let guess : Int := (digitCount numerator : Int) - digitCount denominator
  if numerator * Nat.pow 10 (-guess).toNat < denominator * Nat.pow 10 guess.toNat then guess
  else guess + 1

/-- The nearer one of the two multiples of a power of ten around a magnitude, if it is rounded to
the magnitude, or else the other one. -/
def onGrid? (magnitude : Magnitude) (exponent : Int) : Option Decimal :=
  let (numerator, denominator) := magnitude.toQuotient
  let above := numerator * Nat.pow 10 (-exponent).toNat
  let below := denominator * Nat.pow 10 exponent.toNat
  let lower : Decimal := ⟨above / below, exponent⟩
  let upper : Decimal := ⟨above / below + 1, exponent⟩
  let order := if 2 * (above % below) < below then [lower, upper] else [upper, lower]
  order.find? magnitude.readsBack

/-- Tries grids of more and more digits, of which seventeen suffice. -/
def searchFrom (magnitude : Magnitude) (scale : Int) : (digits tries : Nat) → Decimal
  | _, 0 => ⟨magnitude.toQuotient.1, 0⟩
  | digits, tries + 1 =>
      match magnitude.onGrid? (scale - digits) with
      | some decimal => decimal
      | none => searchFrom magnitude scale (digits + 1) tries

def shortest (magnitude : Magnitude) : Decimal :=
  if magnitude.significand = 0 then ⟨0, 0⟩
  else searchFrom magnitude magnitude.scale 1 17

example : shortest ⟨1, -1074⟩ = ⟨5, -324⟩ := by decide +kernel

end Magnitude

namespace Double

/-- A decimal without an exponent, and without zeros that say nothing. -/
def positional (decimal : Magnitude.Decimal) : String :=
  let places := (-decimal.exponent).toNat
  let digits := Nat.toDigits 10 decimal.digits ++ List.replicate decimal.exponent.toNat '0'
  let padded := List.replicate (places + 1 - digits.length) '0' ++ digits
  let whole := padded.take (padded.length - places)
  let fraction := ((padded.drop (padded.length - places)).reverse.dropWhile (· = '0')).reverse
  String.ofList (whole ++ if fraction = [] then [] else '.' :: fraction)

def signed (negative : Bool) (text : String) : String :=
  if negative then "-" ++ text else text

def text : Double → String
  | .finite negative magnitude => signed negative (positional magnitude.shortest)
  | .infinite negative => signed negative "inf"
  | .undefined => "NaN"

end Double

end HostAttestation
