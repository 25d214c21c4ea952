import HostAttestation.Quote.Cursor

/-! # Register selections

A bank and the registers selected in it. In a quote the registers are the set bits of a bitmap,
lowest bit first; a bitmap of any length is read, and one of three bytes is written. -/

namespace HostAttestation

structure PcrSelection where
  bank : PcrBank
  pcrs : List PcrIndex
  deriving DecidableEq

namespace PcrSelection

/-- The identifier of a hash algorithm in a quote. -/
def algorithmId : PcrBank → Nat
  | .sha1 => 0x0004
  | .sha256 => 0x000B
  | .sha384 => 0x000C
  | .sha512 => 0x000D

def bankOfId? (algorithm : Nat) : Option PcrBank :=
  HashAlgorithm.all.find? fun bank => algorithmId bank == algorithm

/-- The positions of the set bits of a byte, from a first position on. -/
def byteBits (first : Nat) (byte : UInt8) : List Nat :=
  ((List.range 8).filter fun bit => byte.toNat.testBit bit).map fun bit => first + bit

/-- The positions of the set bits of a bitmap in ascending order. -/
def setBits : (first : Nat) → Bytes → List Nat
  | _, [] => []
  | first, byte :: rest => byteBits first byte ++ setBits (first + 8) rest

def indexes (bank : PcrBank) : List Nat → Except QuoteFault (List PcrIndex)
  | [] => .ok []
  | position :: rest =>
      match PcrIndex.ofNat? position with
      | some index => (indexes bank rest).map (index :: ·)
      | none => .error (.unknownIndex position bank)

def read : QuoteReader PcrSelection := do
  let algorithm ← Cursor.number 2 "selection hash"
  match bankOfId? algorithm with
  | none => throw (.unsupportedBank algorithm)
  | some bank =>
      let size ← Cursor.number 1 "sizeofSelect"
      let bitmap ← Cursor.take size "pcrSelect"
      let pcrs ← indexes bank (setBits 0 bitmap)
      pure ⟨bank, pcrs⟩

def bitmapLength : Nat := 3

/-- The byte of a bitmap whose lowest bit has the given position. -/
def bitmapByte (pcrs : List PcrIndex) (first : Nat) : UInt8 :=
  UInt8.ofNat ((List.range 8).foldr
    (fun bit byte =>
      if pcrs.any fun pcr => pcr.value = first + bit then Nat.pow 2 bit + byte else byte)
    0)

def bitmap (pcrs : List PcrIndex) : Bytes :=
  (List.range bitmapLength).map fun position => bitmapByte pcrs (8 * position)

def encode (selection : PcrSelection) : Bytes :=
  BigEndian.encode 2 (algorithmId selection.bank) ++
    BigEndian.encode 1 bitmapLength ++ bitmap selection.pcrs

end PcrSelection

end HostAttestation
