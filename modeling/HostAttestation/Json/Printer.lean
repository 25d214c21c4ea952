import HostAttestation.Json.Basic
import HostAttestation.Bytes.Hex
import HostAttestation.Number.Shortest

/-! # Writing JSON text

Without blanks; only quotes, backslashes and controls are escaped. -/

namespace HostAttestation

namespace Json

namespace Printer

def escapedChar (c : Char) : List Char :=
  if c = '"' then ['\\', '"']
  else if c = '\\' then ['\\', '\\']
  else if c = '\x08' then ['\\', 'b']
  else if c = '\x0c' then ['\\', 'f']
  else if c = '\n' then ['\\', 'n']
  else if c = '\r' then ['\\', 'r']
  else if c = '\t' then ['\\', 't']
  else if c.toNat < 32 then
    ['\\', 'u', '0', '0', Hex.digit (c.toNat / 16), Hex.digit (c.toNat % 16)]
  else [c]

def quoted (text : String) : String :=
  String.ofList ('"' :: text.toList.flatMap escapedChar ++ ['"'])

def number : Number → String
  | .integer value => toString value
  | .decimal value => value.text

end Printer

mutual

def render : Json → String
  | .null => "null"
  | .bool value => if value then "true" else "false"
  | .number value => Printer.number value
  | .string text => Printer.quoted text
  | .array items => "[" ++ String.intercalate "," (renderItems items) ++ "]"
  | .object members => "\x7b" ++ String.intercalate "," (renderMembers members) ++ "\x7d"
termination_by structural value => value

def renderItems : List Json → List String
  | [] => []
  | item :: rest => item.render :: renderItems rest
termination_by structural items => items

def renderMembers : List (String × Json) → List String
  | [] => []
  | member :: rest => renderMember member :: renderMembers rest
termination_by structural members => members

def renderMember : String × Json → String
  | (key, value) => Printer.quoted key ++ ":" ++ value.render
termination_by structural member => member

end

end Json

end HostAttestation
