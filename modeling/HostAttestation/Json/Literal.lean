import HostAttestation.Json.Source

/-! # Numbers as written

The digits of a number are taken in as long as they make up a number of 64 bits; the digits behind
them only count. What was taken in is then multiplied or divided by a power of ten, in doubles, so
the result may be some units away from the nearest double, and a number may be out of range
because of a step on the way to it. -/

namespace HostAttestation

namespace Json

/-- The digits of a number; an exponent has a sign of its own. -/
structure Literal where
  negative : Bool
  whole : List Nat
  fraction : List Nat
  exponent : Option (Bool × List Nat)

namespace Literal

/-- Takes in digits within 64 bits, and counts them. -/
def gather (significand : Nat) : List Nat → Nat × Nat
  | [] => (significand, 0)
  | digit :: rest =>
      if significand * 10 + digit < capacity 64 then
        let (gathered, count) := gather (significand * 10 + digit) rest
        (gathered, count + 1)
      else (significand, 0)

theorem gather_lt (significand : Nat) (digits : List Nat) (small : significand < capacity 64) :
    (gather significand digits).1 < capacity 64 := by
  induction digits generalizing significand with
  | nil => exact small
  | cons digit rest induction =>
      rw [gather]
      split
      next fits => exact induction _ fits
      next => exact small

/-- The greatest power of ten that is a double. -/
def greatestPower : Nat := 308

def powerOfTen? (exponent : Nat) : Option Magnitude :=
  Magnitude.ofQuotient? (Nat.pow 10 exponent) 1

/-- A magnitude times a power of ten within the range of doubles. -/
def shiftOnce? (magnitude : Magnitude) (exponent : Int) : Option Magnitude :=
  match powerOfTen? exponent.natAbs with
  | some power => if 0 ≤ exponent then magnitude.times? power else magnitude.over? power
  | none => none

/-- Divides by the greatest power of ten so many times, or until nothing is left. -/
def lower? : (steps : Nat) → Magnitude → Option Magnitude
  | 0, magnitude => some magnitude
  | steps + 1, magnitude =>
      if magnitude.significand = 0 then some magnitude
      else
        match shiftOnce? magnitude (-greatestPower) with
        | some lowered => lower? steps lowered
        | none => none

/-- A magnitude times any power of ten. -/
def shift? (magnitude : Magnitude) (exponent : Int) : Option Magnitude :=
  if exponent.natAbs ≤ greatestPower then shiftOnce? magnitude exponent
  else if magnitude.significand = 0 then some magnitude
  else if 0 < exponent then none
  else
    let steps := (exponent.natAbs - 1) / greatestPower
    match lower? steps magnitude with
    | some lowered => shiftOnce? lowered (exponent + steps * greatestPower)
    | none => none

/-- An exponent with its sign. Beyond 31 bits all of them are alike. -/
def exponentValue : Option (Bool × List Nat) → Int
  | none => 0
  | some (negative, digits) =>
      let size := digits.foldl (fun number digit => min (number * 10 + digit) (capacity 31)) 0
      if negative then -(size : Int) else size

def magnitude? (literal : Literal) : Option Magnitude :=
  let (significand, count) := gather 0 literal.whole
  let (significand, places) := gather significand literal.fraction
  match Magnitude.ofQuotient? significand 1 with
  | some magnitude =>
      shift? magnitude
        (((literal.whole.length - count : Nat) : Int) - places + exponentValue literal.exponent)
  | none => none

/-- A number without fraction and exponent is an integer if it fits into 64 bits; a negative zero
does not. -/
def integer? (literal : Literal) : Option Int :=
  let (significand, count) := gather 0 literal.whole
  let value : Int := if literal.negative then -significand else significand
  if literal.fraction.isEmpty ∧ literal.exponent.isNone ∧ count = literal.whole.length ∧
      -capacity 63 ≤ value ∧ ¬(literal.negative ∧ significand = 0) then
    some value
  else none

def source (literal : Literal) : Source :=
  match literal.integer?, literal.magnitude? with
  | some value, _ => .number (.integer value)
  | none, some magnitude => .number (.decimal (.finite literal.negative magnitude))
  | none, none => .unreadable

end Literal

end Json

end HostAttestation
