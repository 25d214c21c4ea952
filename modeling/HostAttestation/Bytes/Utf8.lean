import HostAttestation.Bytes.Hex

/-! # UTF-8

The bytes of a text, the text of well-formed bytes, and the reading of any bytes in which every
maximal ill-formed part becomes one replacement character. -/

namespace HostAttestation

namespace Utf8

def encode (text : String) : Bytes :=
  text.toUTF8.toList

def decode? (bytes : Bytes) : Option String :=
  String.fromUTF8? ⟨bytes.toArray⟩

def replacement : Char := '\uFFFD'

/-- What a first byte announces: the number of bytes that follow, the range of the next one, and
the bits it contributes. The ranges leave out overlong forms, surrogates and what lies above the
last code point. -/
structure Lead where
  following : Nat
  low : UInt8
  high : UInt8
  bits : Nat

def lead? (byte : UInt8) : Option Lead :=
  if byte < 0x80 then some ⟨0, 0x80, 0xBF, byte.toNat⟩
  else if byte < 0xC2 then none
  else if byte < 0xE0 then some ⟨1, 0x80, 0xBF, byte.toNat - 0xC0⟩
  else if byte = 0xE0 then some ⟨2, 0xA0, 0xBF, 0⟩
  else if byte = 0xED then some ⟨2, 0x80, 0x9F, 0xD⟩
  else if byte < 0xF0 then some ⟨2, 0x80, 0xBF, byte.toNat - 0xE0⟩
  else if byte = 0xF0 then some ⟨3, 0x90, 0xBF, 0⟩
  else if byte < 0xF4 then some ⟨3, 0x80, 0xBF, byte.toNat - 0xF0⟩
  else if byte = 0xF4 then some ⟨3, 0x80, 0x8F, 4⟩
  else none

/-- Reads bytes with a sequence in progress. A byte that does not continue the sequence ends it
with a replacement character and is then read as a first byte. -/
def lossyFrom : Option Lead → Bytes → List Char
  | none, [] => []
  | some _, [] => [replacement]
  | pending, byte :: rest =>
      let start : List Char :=
        match lead? byte with
        | none => replacement :: lossyFrom none rest
        | some ⟨0, _, _, bits⟩ => Char.ofNat bits :: lossyFrom none rest
        | some lead => lossyFrom (some lead) rest
      match pending with
      | none => start
      | some lead =>
          if lead.low ≤ byte ∧ byte ≤ lead.high then
            let bits := lead.bits * 64 + (byte.toNat - 0x80)
            if lead.following = 1 then Char.ofNat bits :: lossyFrom none rest
            else lossyFrom (some ⟨lead.following - 1, 0x80, 0xBF, bits⟩) rest
          else replacement :: start

def lossy (bytes : Bytes) : String :=
  String.ofList (lossyFrom none bytes)

end Utf8

end HostAttestation
