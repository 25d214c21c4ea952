import HostAttestation.Bytes.BigEndian

/-! # Tagged elements

An element is a tag of one byte, the length of its content in the shortest form, and the content.
A content may itself be made of elements. -/

namespace HostAttestation

namespace Der

structure Element where
  tag : UInt8
  content : Bytes
  deriving DecidableEq, Repr

/-! ## Tags -/

def booleanTag : UInt8 := 0x01
def integerTag : UInt8 := 0x02
def bitsTag : UInt8 := 0x03
def bytesTag : UInt8 := 0x04
def identifierTag : UInt8 := 0x06
def sequenceTag : UInt8 := 0x30

/-- The tag of an element that is told from others by its number. -/
def numberedTag (number : UInt8) : UInt8 :=
  0xA0 + number

/-- A tag goes over several bytes if its five lowest bits are set. -/
def isLongTag (tag : UInt8) : Bool :=
  tag &&& 0x1F == 0x1F

/-! ## Reading -/

/-- Contents are shorter than this. -/
def lengthLimit : Nat := 0xFFFF

/-- A length below 128 is one byte; any other one is as many bytes as it needs, their number before
them. -/
def length? : Bytes → Option (Nat × Bytes)
  | [] => none
  | 0x81 :: length :: rest =>
      if 128 ≤ length.toNat then some (length.toNat, rest) else none
  | 0x82 :: high :: low :: rest =>
      let length := high.toNat * 256 + low.toNat
      if 256 ≤ length ∧ length < lengthLimit then some (length, rest) else none
  | length :: rest => if length.toNat < 128 then some (length.toNat, rest) else none

def element? : Bytes → Option (Element × Bytes)
  | [] => none
  | tag :: rest =>
      if isLongTag tag then none
      else
        match length? rest with
        | none => none
        | some (length, rest) =>
            if length ≤ rest.length then some (⟨tag, rest.take length⟩, rest.drop length)
            else none

/-- Every element takes a byte at least. -/
def elementsWithin : (fuel : Nat) → Bytes → Option (List Element)
  | _, [] => some []
  | 0, _ => none
  | fuel + 1, bytes =>
      match element? bytes with
      | none => none
      | some (element, rest) => (elementsWithin fuel rest).map (element :: ·)

/-- The elements that a content is made of. -/
def elements? (bytes : Bytes) : Option (List Element) :=
  elementsWithin bytes.length bytes

/-- The elements of the one sequence that the bytes are made of. -/
def sequence? (bytes : Bytes) : Option (List Element) :=
  match elements? bytes with
  | some [element] => if element.tag = sequenceTag then elements? element.content else none
  | _ => none

def tags (elements : List Element) : List UInt8 :=
  elements.map Element.tag

end Der

end HostAttestation
