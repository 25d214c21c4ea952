import HostAttestation.Text.Composite

/-! # Composed texts

One text may be written in several ways: with a letter and its marks apart or together, and with
marks that do not get in each other's way in any order. In the composed form everything is first
taken apart, marks are put in the order of their classes, and then each character takes in the
marks that it can be put together with. Characters that the composed form never contains are taken
for characters without parts.

Main statement: putting marks in order only moves characters. -/

namespace HostAttestation

namespace Text

/-! ## Taking apart -/

/-- The first part of a character may have parts itself. -/
def takenApart : (depth : Nat) → Char → List Char
  | 0, c => [c]
  | depth + 1, c =>
      match parts? c with
      | some (first, second) => takenApart depth first ++ [second]
      | none => [c]

/-- No character has more than four parts. -/
def decompose (text : List Char) : List Char :=
  text.flatMap (takenApart 3)

/-! ## Order of marks -/

/-- Puts a character before marks that are in order; it stays before marks of its own class. -/
def placeMark (c : Char) : List Char → List Char
  | [] => [c]
  | mark :: rest =>
      if 0 < combiningClass mark ∧ combiningClass mark < combiningClass c then
        mark :: placeMark c rest
      else c :: mark :: rest

def orderMarks : List Char → List Char
  | [] => []
  | c :: rest => placeMark c (orderMarks rest)

theorem placeMark_perm (c : Char) (text : List Char) : (placeMark c text).Perm (c :: text) := by
  induction text with
  | nil => exact .refl _
  | cons mark rest induction =>
      rw [placeMark]
      split
      · exact (induction.cons mark).trans (.swap c mark rest)
      · exact .refl _

theorem orderMarks_perm (text : List Char) : (orderMarks text).Perm text := by
  induction text with
  | nil => exact .refl _
  | cons c rest induction => exact (placeMark_perm c _).trans (induction.cons c)

/-! ## Putting together -/

/-- A character, and the marks behind it that it did not take in, in reverse. -/
structure Cluster where
  base : Char
  marks : List Char

def Cluster.toList (cluster : Cluster) : List Char :=
  cluster.base :: cluster.marks.reverse

/-- A mark is reached over marks of lower classes only. -/
def Cluster.reaches (cluster : Cluster) (c : Char) : Bool :=
  match cluster.marks with
  | [] => true
  | mark :: _ => combiningClass mark < combiningClass c

def Cluster.takeIn? (cluster : Cluster) (c : Char) : Option Cluster :=
  if cluster.reaches c then
    (whole? cluster.base c).map fun whole => { cluster with base := whole }
  else none

def putTogether : Cluster → List Char → List Char
  | cluster, [] => cluster.toList
  | cluster, c :: rest =>
      match cluster.takeIn? c with
      | some larger => putTogether larger rest
      | none =>
          if combiningClass c = 0 then cluster.toList ++ putTogether ⟨c, []⟩ rest
          else putTogether { cluster with marks := c :: cluster.marks } rest

/-- The composed form. -/
def compose (text : List Char) : List Char :=
  match orderMarks (decompose text) with
  | [] => []
  | c :: rest => putTogether ⟨c, []⟩ rest

def isComposed (text : List Char) : Bool :=
  compose text = text

example : compose ['a', '.', 'b'] = ['a', '.', 'b'] := by decide +kernel

end Text

end HostAttestation
