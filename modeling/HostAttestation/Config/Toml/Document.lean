import HostAttestation.Config.Toml.Value
import HostAttestation.Text.Blank

/-! # Configuration text in tables

A line sets a key of the current table, opens another table, or appends a table to a list. -/

namespace HostAttestation

namespace Toml

/-- The path of the current table, and what was read so far. -/
structure State where
  current : List String
  root : Members

/-- Opens what a path names. -/
def State.open? (state : State) (path : List String) (change : Option Node → Option Node) :
    Option State :=
  (state.root.change? (path.getLast?.getD "") change path.dropLast).map fun root => ⟨path, root⟩

def State.set? (state : State) (path : List String) (value : Json) : Option State :=
  (state.root.inside? (Members.set? (path.getLast?.getD "") value path.dropLast true)
    state.current).map fun root => { state with root := root }

/-- A header behind its opening bracket. -/
def header? (state : State) (text : List Char) : Option (State × Rest) := do
  match text with
  | '[' :: text =>
      match ← key? text with
      | (path, ']' :: ']' :: rest) =>
          let rest ← endLine? rest
          pure (← state.open? path openItem, rest)
      | _ => none
  | _ =>
      match ← key? text with
      | (path, ']' :: rest) =>
          let rest ← endLine? rest
          pure (← state.open? path openTable, rest)
      | _ => none

def setting? (state : State) (text : List Char) : Option (State × Rest) := do
  match ← key? text with
  | (path, '=' :: rest) =>
      let (value, rest) ← value? (text.length + 1) 0 (skipBlanks rest)
      let rest ← endLine? rest
      pure (← state.set? path value, rest)
  | _ => none

/-- Every statement takes a character at least. -/
def statements? : (fuel : Nat) → State → List Char → Option Members
  | 0, _, _ => none
  | fuel + 1, state, text =>
      match skipLines text.length text with
      | [] => some state.root
      | '#' :: rest => if (rest.dropWhile isPlain).isEmpty then some state.root else none
      | '[' :: rest =>
          match header? state rest with
          | some (state, rest) => statements? fuel state rest
          | none => none
      | text =>
          match setting? state text with
          | some (state, rest) => statements? fuel state rest
          | none => none

def parse? (text : List Char) : Option Json :=
  let body := Text.withoutByteOrderMark text
  (statements? (body.length + 1) ⟨[], []⟩ body).map fun members => .object (membersJson members)

end Toml

end HostAttestation
