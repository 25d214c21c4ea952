import HostAttestation.Json.Fields
import HostAttestation.Pcr.Violation
import HostAttestation.Text.Blank

/-! # Register indexes, banks and values

How they are read from numbers, texts and documents. A value has the width of its bank. -/

namespace HostAttestation

abbrev Decoding (α : Type) := Json.Reader Violation α

namespace PcrIndex

/-- All indexes in ascending order. -/
def all : List PcrIndex :=
  (List.range pcrCount).filterMap fun value =>
    if below : value < pcrCount then some ⟨value, below⟩ else none

def ofNat? (number : Nat) : Option PcrIndex :=
  if below : number < pcrCount then some ⟨number, below⟩ else none

def ofInt? : Int → Option PcrIndex
  | .ofNat number => ofNat? number
  | .negSucc _ => none

/-- An integer outside the range is refused by its decimal text. -/
def ofInt (number : Int) : Except Violation PcrIndex :=
  match ofInt? number with
  | some index => .ok index
  | none => .error (.invalidIndex (toString number))

def namePrefix : List Char :=
  ['p', 'c', 'r', '_']

def isDigit (c : Char) : Bool :=
  '0' ≤ c && c ≤ '9'

def number (digits : List Char) : Nat :=
  digits.foldl (fun number digit => number * 10 + (digit.toNat - 48)) 0

/-- A decimal number of any length, with or without the prefix of a register name. -/
def parse? (text : String) : Option PcrIndex :=
  let chars := text.toList
  let digits := if namePrefix.isPrefixOf chars then chars.drop namePrefix.length else chars
  if digits ≠ [] ∧ digits.all isDigit then ofNat? (number digits) else none

def parse (text : String) : Except Violation PcrIndex :=
  match parse? text with
  | some index => .ok index
  | none => .error (.invalidIndex text)

/-- A number of 64 bits or a text. -/
def read : Decoding PcrIndex
  | .number value => Json.Reader.checked Json.Reader.int64 ofInt (.number value)
  | source => Json.Reader.checked Json.Reader.text parse source

def toJson (index : PcrIndex) : Json :=
  .nat index.value

end PcrIndex

/-- An algorithm by its identifier, alone or as the only key of an empty object. -/
def HashAlgorithm.read : Decoding HashAlgorithm
  | .string name => Json.Reader.encoded ofIdentifier? (.string name)
  | .object [(some name, .null)] true => Json.Reader.encoded ofIdentifier? (.string name)
  | _ => .error .malformed

namespace PcrBank

def parse (text : String) : Except Violation PcrBank :=
  match HashAlgorithm.parse? text with
  | some bank => .ok bank
  | none => .error (.unsupportedBank text)

def read : Decoding PcrBank :=
  Json.Reader.checked Json.Reader.text parse

def toJson (bank : PcrBank) : Json :=
  .string bank.bankName

/-- Refuses a digest that has not the width of the bank. -/
def checkDigest (bank : PcrBank) (field : DigestField) (digest : Bytes) : Except Violation Unit :=
  if digest.length = bank.digestLength then .ok ()
  else .error (.digestLength field bank digest.length)

end PcrBank

namespace PcrId

def fields : Json.Fields Violation PcrId :=
  PcrId.mk <$> .required "index" PcrIndex.read <*> .required "bank" PcrBank.read

def read : Decoding PcrId :=
  fields.read

def toJson (pcr : PcrId) : Json :=
  .object [("index", pcr.index.toJson), ("bank", PcrBank.toJson pcr.bank)]

end PcrId

/-- The value of a register as the platform reports it. -/
structure PcrValue where
  pcr : PcrId
  digest : Bytes
  width : digest.length = pcr.bank.digestLength
  deriving DecidableEq

namespace PcrValue

def ofDigest (pcr : PcrId) (digest : Bytes) : Except Violation PcrValue :=
  if width : digest.length = pcr.bank.digestLength then .ok ⟨pcr, digest, width⟩
  else .error (.digestLength (.value pcr) pcr.bank digest.length)

/-- Blanks around the digits are ignored. -/
def ofHex (pcr : PcrId) (text : String) : Except Violation PcrValue :=
  match Hex.decode? (Text.trim text) with
  | some digest => ofDigest pcr digest
  | none => .error (.invalidHex (.value pcr) text)

def hex (value : PcrValue) : String :=
  Hex.encode value.digest

/-- A value in a document before its text is examined. -/
structure Unchecked where
  index : PcrIndex
  bank : PcrBank
  text : String

def fields : Json.Fields Violation Unchecked :=
  Unchecked.mk <$> .required "index" PcrIndex.read <*> .required "bank" PcrBank.read <*>
    .required "value" Json.Reader.text

def read : Decoding PcrValue :=
  Json.Reader.checked fields.read fun unchecked =>
    ofHex ⟨unchecked.index, unchecked.bank⟩ unchecked.text

def toJson (value : PcrValue) : Json :=
  .object [("index", value.pcr.index.toJson), ("bank", PcrBank.toJson value.pcr.bank),
    ("value", .string value.hex)]

theorem ofDigest_digest (value : PcrValue) : ofDigest value.pcr value.digest = .ok value := by
  simp [ofDigest, value.width]

end PcrValue

end HostAttestation
