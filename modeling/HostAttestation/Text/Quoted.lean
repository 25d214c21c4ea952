import HostAttestation.Text.Escaped

/-! # Quoted texts

A text between double quotes in which the quote, the backslash and what cannot be seen are
written as escapes. -/

namespace HostAttestation

namespace Text

def hexDigits (number : Nat) : List Char :=
  Nat.toDigits 16 number

def quotedChar (c : Char) : List Char :=
  if c = '\x00' then ['\\', '0']
  else if c = '\t' then ['\\', 't']
  else if c = '\r' then ['\\', 'r']
  else if c = '\n' then ['\\', 'n']
  else if c = '\\' || c = '"' then ['\\', c]
  else if c.toNat < 127 && 32 ≤ c.toNat then [c]
  else if isEscaped c then ['\\', 'u', '\x7b'] ++ hexDigits c.toNat ++ ['\x7d']
  else [c]

def quoted (text : String) : String :=
  String.ofList ('"' :: text.toList.flatMap quotedChar ++ ['"'])

end Text

end HostAttestation
