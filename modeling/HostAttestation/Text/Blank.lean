/-! # Blanks

The characters with the white space property, and texts without the blanks around them. -/

namespace HostAttestation

namespace Text

/-- The code points with the white space property. -/
def blankRanges : List (Nat × Nat) :=
  [(0x09, 0x0D), (0x20, 0x20), (0x85, 0x85), (0xA0, 0xA0), (0x1680, 0x1680), (0x2000, 0x200A),
    (0x2028, 0x2029), (0x202F, 0x202F), (0x205F, 0x205F), (0x3000, 0x3000)]

def inRanges (ranges : List (Nat × Nat)) (c : Char) : Bool :=
  ranges.any fun range => range.1 ≤ c.toNat && c.toNat ≤ range.2

def isBlank (c : Char) : Bool :=
  inRanges blankRanges c

def trimChars (text : List Char) : List Char :=
  ((text.dropWhile isBlank).reverse.dropWhile isBlank).reverse

def trim (text : String) : String :=
  String.ofList (trimChars text.toList)

def byteOrderMark : Char := '\ufeff'

/-- A text may begin with a mark that tells the order of its bytes and is no part of it. -/
def withoutByteOrderMark (text : List Char) : List Char :=
  if text.head? = some byteOrderMark then text.drop 1 else text

end Text

end HostAttestation
