import HostAttestation.Bytes.Hex
import HostAttestation.Text.Split

/-! # Universally unique identifiers

Sixteen bytes. They are read from 32 hexadecimal digits, from the five hyphenated groups, and
from these groups in braces or as a resource name; they are written as the hyphenated groups. -/

namespace HostAttestation

structure Uuid where
  bytes : Bytes
  size : bytes.length = 16

namespace Uuid

def groupLengths : List Nat :=
  [8, 4, 4, 4, 12]

def ofDigits? (digits : List Char) : Option Uuid :=
  match Hex.decodeChars digits with
  | none => none
  | some bytes => if size : bytes.length = 16 then some ⟨bytes, size⟩ else none

def ofGroups? (text : List Char) : Option Uuid :=
  let groups := Text.split '-' text
  if groups.map List.length = groupLengths then ofDigits? groups.flatten else none

def resourceName : List Char :=
  ['u', 'r', 'n', ':', 'u', 'u', 'i', 'd', ':']

/-- The form is told by the length; the words of a resource name may have capitals. -/
def parse? (text : String) : Option Uuid :=
  let chars := text.toList
  if chars.length = 32 then ofDigits? chars
  else if chars.length = 36 then ofGroups? chars
  else if chars.length = 38 then
    if chars.head? = some '\x7b' ∧ chars.getLast? = some '\x7d' then
      ofGroups? (chars.drop 1).dropLast
    else none
  else if chars.length = 45 then
    if (chars.take 9).map Char.toLower = resourceName then ofGroups? (chars.drop 9) else none
  else none

/-- Cuts a list into groups of the given lengths. -/
def groups : List Nat → List α → List (List α)
  | [], _ => []
  | length :: lengths, list => list.take length :: groups lengths (list.drop length)

def text (uuid : Uuid) : String :=
  String.ofList (Text.join '-' (groups groupLengths (Hex.encodeChars uuid.bytes)))

end Uuid

end HostAttestation
