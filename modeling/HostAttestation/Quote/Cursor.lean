import HostAttestation.PcrManifest
import HostAttestation.Text.Quoted

/-! # Reading a quote blob

A cursor walks over a byte string and knows how far it has come. It gives out a part only if all
its bytes are there. -/

namespace HostAttestation

/-- Why a blob is not a quote, or why a quote is not the answer to a request. -/
inductive QuoteFault
  | truncated (part : String) (needed offset left : Nat)
  | notGenerated
  | notQuote
  | unsupportedBank (algorithm : Nat)
  | unknownIndex (index : Nat) (bank : PcrBank)
  | unsupportedSignature (algorithm : Nat)
  | invalidValue (violation : Violation)
  | trailing (count : Nat)
  | nonceMismatch (qualified nonce : Bytes)
  | digestWidth (length : Nat)
  | digestMismatch (computed attested : Bytes)
  deriving DecidableEq, Repr

namespace QuoteFault

/-- An algorithm identifier in four hexadecimal digits. -/
def identifier (algorithm : Nat) : String :=
  let digits := Text.hexDigits algorithm
  "0x" ++ String.ofList (List.replicate (4 - digits.length) '0' ++ digits)

def message : QuoteFault → String
  | truncated part needed offset left =>
      s!"quote truncated: {part} needs {needed} bytes at offset {offset}, {left} left"
  | notGenerated => "not a TPM generated structure"
  | notQuote => "attested structure is not a quote"
  | unsupportedBank algorithm => "unsupported PCR bank algorithm " ++ identifier algorithm
  | unknownIndex index bank => s!"PCR {index} selected in bank " ++ bank.bankName
  | unsupportedSignature algorithm => "unsupported signature algorithm " ++ identifier algorithm
  | invalidValue violation => violation.message
  | trailing count => s!"{count} unexpected bytes after the PCR values"
  | nonceMismatch qualified nonce =>
      "quote qualifying data " ++ Hex.encode qualified ++ " is not the request nonce " ++
        Hex.encode nonce
  | digestWidth length => s!"attested PCR digest has an unexpected length of {length} bytes"
  | digestMismatch computed attested =>
      "PCR values do not match the attested digest: computed " ++ Hex.encode computed ++
        ", attested " ++ Hex.encode attested

/-- The violation behind a fault that only says where it occurred. -/
def cause? : QuoteFault → Option Violation
  | unknownIndex index _ => some (.invalidIndex (toString index))
  | _ => none

end QuoteFault

structure Cursor where
  rest : Bytes
  offset : Nat

abbrev QuoteReader :=
  StateT Cursor (Except QuoteFault)

namespace Cursor

def ofBytes (bytes : Bytes) : Cursor :=
  ⟨bytes, 0⟩

/-- The next `length` bytes. -/
def take (length : Nat) (part : String) : QuoteReader Bytes := fun cursor =>
  let bytes := cursor.rest.take length
  if bytes.length = length then
    .ok (bytes, ⟨cursor.rest.drop length, cursor.offset + length⟩)
  else .error (.truncated part length cursor.offset cursor.rest.length)

/-- The next big endian number of `width` bytes. -/
def number (width : Nat) (part : String) : QuoteReader Nat := do
  let bytes ← take width part
  pure (BigEndian.decode bytes)

/-- The length of a buffer in two bytes, followed by the buffer. -/
def sized (part : String) : QuoteReader Bytes := do
  let length ← number 2 part
  take length part

/-- Reads something `count` times, one after the other. -/
def times (read : QuoteReader α) : (count : Nat) → QuoteReader (List α)
  | 0 => pure []
  | count + 1 => do
      let first ← read
      let others ← times read count
      pure (first :: others)

end Cursor

end HostAttestation
