/-! # Numbers in binary floating point

A magnitude is a significand of at most 53 bits at a power of two. Arithmetic takes the exact
result to the nearest magnitude, a tie to the even significand, and fails beyond the greatest one.
Main statement: rounding a quotient misses it by half a unit at most. -/

namespace HostAttestation

/-- A double without its sign. -/
structure Magnitude where
  significand : Nat
  exponent : Int
  deriving DecidableEq, Repr

inductive Double
  | finite (negative : Bool) (magnitude : Magnitude)
  | infinite (negative : Bool)
  | undefined
  deriving DecidableEq, Repr

/-- The nearest whole number to a quotient, of two the even one. -/
def roundedQuotient (numerator denominator : Nat) : Nat :=
  let quotient := numerator / denominator
  let rest := numerator % denominator
  if denominator < 2 * rest ∨ (denominator = 2 * rest ∧ quotient % 2 = 1) then quotient + 1
  else quotient

theorem roundedQuotient_near (numerator denominator : Nat) (positive : 0 < denominator) :
    2 * (roundedQuotient numerator denominator * denominator) ≤ 2 * numerator + denominator ∧
      2 * numerator ≤ 2 * (roundedQuotient numerator denominator * denominator) + denominator := by
  have whole := Nat.div_add_mod numerator denominator
  have small := Nat.mod_lt numerator positive
  rw [Nat.mul_comm] at whole
  simp only [roundedQuotient]
  split
  · rw [Nat.add_mul, Nat.one_mul]
    omega
  · omega

namespace Magnitude

def zero : Magnitude :=
  ⟨0, -1074⟩

/-- Significands are below this limit. -/
def significandLimit : Nat :=
  Nat.pow 2 53

def leastExponent : Int := -1074

def greatestExponent : Int := 971

/-- A quotient in units of a power of two. -/
def inUnits (numerator denominator : Nat) (exponent : Int) : Nat × Nat :=
  (numerator * Nat.pow 2 (-exponent).toNat, denominator * Nat.pow 2 exponent.toNat)

/-- The exponent at which a quotient has as many bits as a significand can hold. -/
def exponentFor (numerator denominator : Nat) : Int :=
  let guess := max leastExponent ((Nat.log2 numerator : Int) - Nat.log2 denominator - 53)
  let (above, below) := inUnits numerator denominator guess
  if above / below < significandLimit then guess else guess + 1

/-- The magnitude nearest to a quotient. -/
def ofQuotient? (numerator denominator : Nat) : Option Magnitude :=
  if numerator = 0 then some zero
  else
    let exponent := exponentFor numerator denominator
    let (above, below) := inUnits numerator denominator exponent
    let significand := roundedQuotient above below
    let magnitude : Magnitude :=
      if significand = significandLimit then ⟨significand / 2, exponent + 1⟩
      else ⟨significand, exponent⟩
    if magnitude.exponent ≤ greatestExponent then some magnitude else none

/-- Numerator and denominator of the exact value. -/
def toQuotient (magnitude : Magnitude) : Nat × Nat :=
  inUnits magnitude.significand 1 (-magnitude.exponent)

def times? (left right : Magnitude) : Option Magnitude :=
  ofQuotient? (left.toQuotient.1 * right.toQuotient.1) (left.toQuotient.2 * right.toQuotient.2)

def over? (left right : Magnitude) : Option Magnitude :=
  ofQuotient? (left.toQuotient.1 * right.toQuotient.2) (left.toQuotient.2 * right.toQuotient.1)

/-- The nearest whole number, a half going up. -/
def rounded (magnitude : Magnitude) : Nat :=
  let (numerator, denominator) := magnitude.toQuotient
  (2 * numerator + denominator) / (2 * denominator)

example : ofQuotient? 9007199254740993 1 = some ⟨4503599627370496, 1⟩ := by decide +kernel

example : ofQuotient? 1 (Nat.pow 10 400) = some zero := by decide +kernel

end Magnitude

namespace Double

/-- The double nearest to a quotient with a sign. -/
def ofQuotient (negative : Bool) (numerator denominator : Nat) : Double :=
  match Magnitude.ofQuotient? numerator denominator with
  | some magnitude => .finite negative magnitude
  | none => .infinite negative

end Double

end HostAttestation
