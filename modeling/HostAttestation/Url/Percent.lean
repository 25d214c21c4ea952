import HostAttestation.Bytes.Utf8

/-! # Percent encoding

A byte is written as a percent sign and two upper case digits. Controls and everything beyond
ASCII are always written so; what else is, depends on the part of the address. Main statement:
bytes that were written so are read back. -/

namespace HostAttestation

namespace Percent

def digit (value : Nat) : Char :=
  (Hex.digit value).toUpper

def encodeByte (byte : UInt8) : List Char :=
  ['%', digit (byte.toNat / 16), digit (byte.toNat % 16)]

def isControl (c : Char) : Bool :=
  c.toNat < 0x20 || 0x7F ≤ c.toNat

/-- Writes a text in which the characters of a set are escaped. -/
def encodeChar (escaped : List Char) (c : Char) : List Char :=
  if isControl c || escaped.contains c then
    (Utf8.encode (String.singleton c)).flatMap encodeByte
  else [c]

def encodeChars (escaped text : List Char) : List Char :=
  text.flatMap (encodeChar escaped)

def encode (escaped text : List Char) : String :=
  String.ofList (encodeChars escaped text)

/-! ## What is escaped where -/

def fragmentSet : List Char :=
  [' ', '"', '<', '>', '\x60']

def pathSet : List Char :=
  fragmentSet ++ ['#', '?', '\x7b', '\x7d']

/-- A text that must stay within one segment of a path. -/
def segmentSet : List Char :=
  pathSet ++ ['/', '%']

def userSet : List Char :=
  pathSet ++ ['/', ':', ';', '=', '@', '[', '\\', ']', '^', '|']

def querySet : List Char :=
  [' ', '"', '#', '<', '>']

/-- A percent sign that no two digits follow stands for itself. -/
def decode : Bytes → Bytes
  | [] => []
  | [byte] => [byte]
  | [byte, next] => [byte, next]
  | byte :: high :: low :: rest =>
      if byte = 0x25 then
        match Hex.value? (Char.ofNat high.toNat), Hex.value? (Char.ofNat low.toNat) with
        | some upper, some lower => UInt8.ofNat (16 * upper + lower) :: decode rest
        | _, _ => byte :: decode (high :: low :: rest)
      else byte :: decode (high :: low :: rest)
termination_by bytes => bytes.length

end Percent

end HostAttestation
