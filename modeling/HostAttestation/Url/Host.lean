import HostAttestation.Bytes.BigEndian
import HostAttestation.Url.Domain
import HostAttestation.Url.Percent

/-! # Hosts of an address

A name, or a number of 32 or of 128 bits. Names are examined by one of two rules: those of the
well known schemes are domain names, which do not tell capitals, and may be numbers of 32 bits
in disguise; those of other schemes are kept as they are. -/

namespace HostAttestation

/-- The four lowest bytes, or the eight pieces of 16 bits, of a numeric address. -/
inductive Host
  | name (text : String)
  | address4 (value : Nat)
  | address6 (pieces : List Nat)
  deriving DecidableEq, Repr

namespace Host

/-! ## Numbers of 32 bits -/

def isDecimal (c : Char) : Bool :=
  '0' ≤ c && c ≤ '9'

def numberOf (base : Nat) (digits : List Char) : Option Nat :=
  digits.foldl
    (fun number digit =>
      match number, Hex.value? digit with
      | some number, some value => if value < base then some (number * base + value) else none
      | _, _ => none)
    (some 0)

/-- A number in decimal, octal or hexadecimal digits. -/
def number? : List Char → Option Nat
  | [] => none
  | '0' :: 'x' :: digits => numberOf 16 digits
  | '0' :: 'X' :: digits => numberOf 16 digits
  | '0' :: digit :: digits => numberOf 8 (digit :: digits)
  | digits => numberOf 10 digits

/-- The parts between the dots; a dot at the end is ignored. -/
def dottedParts (text : List Char) : List (List Char) :=
  let parts := Text.split '.' text
  if parts.getLast? = some [] then parts.dropLast else parts

/-- A domain whose last part is a number can only be a numeric address. -/
def endsInNumber (domain : List Char) : Bool :=
  match (dottedParts domain).getLast? with
  | none => false
  | some part => (part ≠ [] && part.all isDecimal) || (number? part).isSome

/-- The last part fills all the bytes that the parts before it leave. -/
def value4? : List Nat → Option Nat
  | [] => none
  | [last] => some last
  | byte :: rest => if byte < 256 then value4? rest else none

def address4? (domain : List Char) : Option Host :=
  let parts := dottedParts domain
  if 4 < parts.length then none
  else
    match parts.mapM number? with
    | none => none
    | some numbers =>
        match value4? numbers with
        | none => none
        | some last =>
            if last < BigEndian.capacity (5 - numbers.length) then
              let leading := numbers.dropLast.foldl (fun value byte => value * 256 + byte) 0
              some (.address4 (leading * BigEndian.capacity (5 - numbers.length) + last))
            else none

def text4 (value : Nat) : String :=
  String.intercalate "." ((BigEndian.encode 4 value).map fun byte => toString byte.toNat)

/-! ## Numbers of 128 bits -/

def piece? (digits : List Char) : Option Nat :=
  if digits = [] ∨ 4 < digits.length then none else numberOf 16 digits

/-- A byte in decimal digits, without leading zeros. -/
def byte? (digits : List Char) : Option Nat :=
  if digits = [] ∨ (digits.head? = some '0' ∧ 1 < digits.length) then none
  else
    match numberOf 10 digits with
    | some value => if value < 256 then some value else none
    | none => none

/-- The last two pieces may be written as four bytes. -/
def dotted? (text : List Char) : Option (List Nat) :=
  match (Text.split '.' text).mapM byte? with
  | some [first, second, third, fourth] => some [first * 256 + second, third * 256 + fourth]
  | _ => none

def pieces? : List (List Char) → Option (List Nat)
  | [] => some []
  | [last] =>
      match piece? last with
      | some piece => some [piece]
      | none => dotted? last
  | part :: rest =>
      match piece? part, pieces? rest with
      | some piece, some pieces => some (piece :: pieces)
      | _, _ => none

/-- The text before and behind the first double colon. -/
def cutColons : List Char → Option (List Char × List Char)
  | ':' :: ':' :: rest => some ([], rest)
  | [] => none
  | c :: rest => (cutColons rest).map fun (left, right) => (c :: left, right)

def side? (text : List Char) : Option (List Nat) :=
  if text = [] then some [] else pieces? (Text.split ':' text)

/-- The side before a double colon has no dotted bytes. -/
def leftSide? (text : List Char) : Option (List Nat) :=
  if text = [] then some [] else (Text.split ':' text).mapM piece?

/-- A double colon stands for the pieces that are missing, at least one of them, all zero. -/
def address6? (text : List Char) : Option Host :=
  match cutColons text with
  | none =>
      match side? text with
      | some pieces => if pieces.length = 8 then some (.address6 pieces) else none
      | none => none
  | some (left, right) =>
      match leftSide? left, side? right with
      | some before, some after =>
          if before.length + after.length < 8 then
            some (.address6
              (before ++ List.replicate (8 - (before.length + after.length)) 0 ++ after))
          else none
      | _, _ => none

def zerosAt (pieces : List Nat) : Nat :=
  (pieces.takeWhile (· = 0)).length

/-- Start and length of the first of the longest runs of zeros. -/
def longestZeros : (start : Nat) → List Nat → Nat × Nat
  | start, [] => (start, 0)
  | start, piece :: rest =>
      let here := zerosAt (piece :: rest)
      let later := longestZeros (start + 1) rest
      if later.2 ≤ here then (start, here) else later

def hexText (number : Nat) : String :=
  String.ofList (Nat.toDigits 16 number)

def joined (pieces : List Nat) : String :=
  String.intercalate ":" (pieces.map hexText)

def text6 (pieces : List Nat) : String :=
  let (start, length) := longestZeros 0 pieces
  if length < 2 then joined pieces
  else joined (pieces.take start) ++ "::" ++ joined (pieces.drop (start + length))

/-! ## Names -/

def bracketed? (text : List Char) : Option (List Char) :=
  match text with
  | '[' :: rest => if rest.getLast? = some ']' then some rest.dropLast else none
  | _ => none

def ofBracketed (text : List Char) : Option Host :=
  match bracketed? text with
  | some inner => address6? inner
  | none => none

/-- Characters that no name of a host contains. -/
def forbidden : List Char :=
  ['\x00', '\t', '\n', '\r', ' ', '#', '/', ':', '<', '>', '?', '@', '[', '\\', ']', '^', '|']

/-- A host of a scheme that is not well known. -/
def ofName (text : List Char) : Option Host :=
  if text.head? = some '[' then ofBracketed text
  else if text.any forbidden.contains then none
  else some (.name (Percent.encode [] text))

/-- A domain in its written form, escapes being resolved first. -/
def domain? (text : List Char) : Option (List Char) :=
  match Utf8.decode? (Percent.decode (Utf8.encode (String.ofList text))) with
  | some decoded => Domain.write? decoded.toList
  | none => none

/-- A host of a well known scheme. -/
def ofDomain (text : List Char) : Option Host :=
  if text.head? = some '[' then ofBracketed text
  else
    match domain? text with
    | none => none
    | some domain =>
        if endsInNumber domain then address4? domain else some (.name (String.ofList domain))

def text : Host → String
  | .name written => written
  | .address4 value => text4 value
  | .address6 pieces => "[" ++ text6 pieces ++ "]"

end Host

end HostAttestation
