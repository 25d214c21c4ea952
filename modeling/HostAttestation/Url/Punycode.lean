/-! # Labels in ASCII

A label with characters beyond ASCII is written as its ASCII characters, a hyphen, and the
insertions that bring back the others: the smallest character first, and of equal characters the
leftmost first. An insertion is the number of steps from the one before it, counted through all
places of the label for every code point passed over. Its digits have weights that adapt to the
sizes of the numbers written so far.

Main statement: a digit that was written is read back. -/

namespace HostAttestation

namespace Punycode

/-- A digit of 36: the small letters, then the decimal digits. -/
def digit (value : Nat) : Char :=
  if value < 26 then Char.ofNat (97 + value) else Char.ofNat (22 + value)

def value? (c : Char) : Option Nat :=
  if 'a' ≤ c ∧ c ≤ 'z' then some (c.toNat - 97)
  else if 'A' ≤ c ∧ c ≤ 'Z' then some (c.toNat - 65)
  else if '0' ≤ c ∧ c ≤ '9' then some (c.toNat - 22)
  else none

theorem value?_digit {value : Nat} (small : value < 36) : value? (digit value) = some value := by
  have all : ∀ value ∈ List.range 36, value? (digit value) = some value := by decide
  exact all value (List.mem_range.mpr small)

/-- A digit below the threshold of its position ends a number. -/
def threshold (bias position : Nat) : Nat :=
  min 26 (max 1 (position - bias))

theorem threshold_pos (bias position : Nat) : 1 ≤ threshold bias position := by
  unfold threshold
  omega

/-- The digits of a number from a position on, the least digit first. -/
def digits (bias position number : Nat) : List Char :=
  if number < threshold bias position then [digit number]
  else
    let rest := number - threshold bias position
    let base := 36 - threshold bias position
    digit (threshold bias position + rest % base) :: digits bias (position + 36) (rest / base)
termination_by number
decreasing_by
  have positive := threshold_pos bias position
  have smaller := Nat.div_le_self (number - threshold bias position)
    (36 - threshold bias position)
  omega

/-- The bias that suits a number of a given size. -/
def biasOf (position number : Nat) : Nat :=
  if 455 < number then biasOf (position + 36) (number / 35)
  else position + 36 * number / (number + 38)
termination_by number

/-- The bias behind a number, the label having `count` characters by then. -/
def adapt (first : Bool) (number count : Nat) : Nat :=
  let scaled := number / if first then 700 else 2
  biasOf 0 (scaled + scaled / count)

def isAscii (c : Char) : Bool :=
  c.toNat < 128

/-- What was written, the steps since the last insertion, and how many characters the label has
so far. -/
structure State where
  written : List Char
  steps : Nat
  bias : Nat
  count : Nat

/-- Steps over a place of the label, or inserts the character that belongs there. -/
def visit (first : State → Bool) (code : Nat) (state : State) (c : Char) : State :=
  if c.toNat < code then { state with steps := state.steps + 1 }
  else if c.toNat = code then
    { written := state.written ++ digits state.bias 36 state.steps
      steps := 0
      bias := adapt (first state) state.steps (state.count + 1)
      count := state.count + 1 }
  else state

/-- Inserts the characters with the given code points, all of them from `next` on. -/
def insertAll (first : State → Bool) (label : List Char) :
    (next : Nat) → List Nat → State → State
  | _, [], state => state
  | next, code :: codes, state =>
      let skipped := (code - next) * (state.count + 1)
      let state := label.foldl (visit first code) { state with steps := state.steps + skipped }
      insertAll first label (code + 1) codes { state with steps := state.steps + 1 }

def encode (label : List Char) : List Char :=
  let kept := label.filter isAscii
  let codes := ((label.filter (!isAscii ·)).map Char.toNat).mergeSort.eraseDups
  let first : State → Bool := fun state => state.count == kept.length
  let start : State := ⟨if kept = [] then [] else kept ++ ['-'], 0, 72, kept.length⟩
  (insertAll first label 128 codes start).written

/-! ## Decoding

Numbers that 32 bits cannot hold are refused. -/

def limit : Nat := Nat.pow 2 32

/-- Reads the rest of a number, of which the digits so far make a total. -/
def number? (bias : Nat) : (position weight total : Nat) → List Char → Option (Nat × List Char)
  | _, _, _, [] => none
  | position, weight, total, c :: rest =>
      match value? c with
      | none => none
      | some digit =>
          let sum := total + digit * weight
          let heavier := weight * (36 - threshold bias position)
          if limit ≤ sum then none
          else if digit < threshold bias position then some (sum, rest)
          else if limit ≤ heavier then none
          else number? bias (position + 36) heavier sum rest

/-- Makes the insertions one after the other, each of which takes a digit at least. The next one is
counted from a place and a code point. -/
def insertions? : (fuel : Nat) → (bias place code : Nat) → (label encoded : List Char) →
    Option (List Char)
  | _, _, _, _, label, [] => some label
  | 0, _, _, _, _, _ => none
  | fuel + 1, bias, place, code, label, encoded =>
      match number? bias 36 1 place encoded with
      | none => none
      | some (steps, rest) =>
          let count := label.length + 1
          let next := code + steps / count
          if next.isValidChar then
            insertions? fuel (adapt (place = 0) (steps - place) count) (steps % count + 1) next
              (label.insertIdx (steps % count) (Char.ofNat next)) rest
          else none

/-- What stands before the last hyphen, which must be something, and what follows it. -/
def cutKept (text : List Char) : List Char × List Char :=
  let behind := (text.reverse.takeWhile (· ≠ '-')).reverse
  let kept := text.take (text.length - behind.length - 1)
  if kept.isEmpty then ([], text) else (kept, behind)

def decode? (text : List Char) : Option (List Char) :=
  let (kept, encoded) := cutKept text
  if kept.all isAscii then insertions? encoded.length 72 0 128 kept encoded else none

end Punycode

end HostAttestation
