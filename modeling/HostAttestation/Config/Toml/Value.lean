import HostAttestation.Config.Toml.Numeral
import HostAttestation.Config.Toml.Quoted
import HostAttestation.Config.Toml.Tree

/-! # Values of configuration text

Strings, numbers, truth values, lists in brackets, which may go over several lines, and tables in
braces, which may not. Lists and tables nest at most 79 deep. -/

namespace HostAttestation

namespace Toml

def nestingLimit : Nat := 80

def startsNumber (c : Char) : Bool :=
  Moment.isDigit c || c = '+' || c = '-' || c = 'i' || c = 'n'

/-- A value that holds no others. -/
def scalar? (text : List Char) : Option (Json × Rest) :=
  match text with
  | [] => none
  | 't' :: 'r' :: 'u' :: 'e' :: rest => some (.bool true, rest)
  | 'f' :: 'a' :: 'l' :: 's' :: 'e' :: rest => some (.bool false, rest)
  | c :: _ =>
      if startsNumber c then Numeral.read? text
      else (anyText? text).map fun (text, rest) => (.string (String.ofList text), rest)

mutual

def value? : (fuel : Nat) → (depth : Nat) → List Char → Option (Json × Rest)
  | 0, _, _ => none
  | fuel + 1, depth, text =>
      match text with
      | '[' :: rest =>
          if depth + 1 < nestingLimit then
            (items? fuel (depth + 1) rest).map fun (items, rest) => (.array items, rest)
          else none
      | '\x7b' :: rest =>
          if depth + 1 < nestingLimit then
            match skipBlanks rest with
            | '\x7d' :: rest => some (.object [], rest)
            | rest =>
                (settings? fuel (depth + 1) [] rest).map fun (members, rest) =>
                  (.object (membersJson members), rest)
          else none
      | _ => scalar? text

/-- The items of a list behind its bracket or a comma; the last comma may be followed by none. -/
def items? : (fuel : Nat) → (depth : Nat) → List Char → Option (List Json × Rest)
  | 0, _, _ => none
  | fuel + 1, depth, text =>
      match skipLines text.length text with
      | ']' :: rest => some ([], rest)
      | text =>
          match value? fuel depth text with
          | none => none
          | some (item, rest) =>
              match skipLines rest.length rest with
              | ']' :: rest => some ([item], rest)
              | ',' :: rest =>
                  (items? fuel depth rest).map fun (others, rest) => (item :: others, rest)
              | _ => none

/-- The keys and values of a table in braces. -/
def settings? : (fuel : Nat) → (depth : Nat) → Members → List Char → Option (Members × Rest)
  | 0, _, _, _ => none
  | fuel + 1, depth, members, text =>
      match key? text with
      | some (path, '=' :: rest) =>
          match value? fuel depth (skipBlanks rest) with
          | none => none
          | some (value, rest) =>
              match members.set? (path.getLast?.getD "") value path.dropLast true,
                  skipBlanks rest with
              | some members, '\x7d' :: rest => some (members, rest)
              | some members, ',' :: rest => settings? fuel depth members rest
              | _, _ => none
      | _ => none

end

end Toml

end HostAttestation
