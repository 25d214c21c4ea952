/-! # Tables of code points

An entry of a table holds for the code points from a first to a last one, or only for every so many
of them, and may give values, which belong to its first code point and grow with it.

Main statement: an entry is found for exactly the code points that a table contains. -/

namespace HostAttestation

namespace Text

structure CodeEntry where
  first : Nat
  last : Nat
  step : Nat
  values : List Nat
  deriving DecidableEq, Repr

structure CodeTable where
  entries : List CodeEntry

namespace CodeEntry

def one (code : Nat) (values : List Nat) : CodeEntry :=
  ⟨code, code, 1, values⟩

def span (first last : Nat) (values : List Nat) : CodeEntry :=
  ⟨first, last, 1, values⟩

def every (step first last : Nat) (values : List Nat) : CodeEntry :=
  ⟨first, last, step, values⟩

def holds (entry : CodeEntry) (code : Nat) : Bool :=
  entry.first ≤ code && code ≤ entry.last && (code - entry.first) % entry.step == 0

def valuesAt (entry : CodeEntry) (code : Nat) : List Nat :=
  entry.values.map (· + (code - entry.first))

example : (every 2 0x100 0x12E [0x101]).valuesAt 0x104 = [0x105] := by decide

end CodeEntry

namespace CodeTable

/-- A table without values. -/
def ofRanges (ranges : List (Nat × Nat)) : CodeTable :=
  ⟨ranges.map fun (first, last) => .span first last []⟩

def find? (table : CodeTable) (c : Char) : Option CodeEntry :=
  table.entries.find? (·.holds c.toNat)

def contains (table : CodeTable) (c : Char) : Bool :=
  table.entries.any (·.holds c.toNat)

theorem isSome_find? (table : CodeTable) (c : Char) :
    (table.find? c).isSome = table.contains c := by
  simp only [contains, find?, List.isSome_find?]

end CodeTable

end Text

end HostAttestation
