import HostAttestation.Quote.Selection
import HostAttestation.Quote.Signature

/-! # Quotes

A quote blob is the length and the bytes of the attested structure, the signature, and the raw
register values in the order of the selections. What follows the digest inside the attested
structure is not looked at; nothing may follow the values. -/

namespace HostAttestation

structure TpmQuote where
  qualifiedSigner : Bytes
  /-- Qualifying data, by which the quote names the request that it answers. -/
  extraData : Bytes
  firmwareVersion : UInt64
  selections : List PcrSelection
  /-- The digest that the platform computed over the selected registers. -/
  pcrDigest : Bytes
  signature : QuoteSignature
  values : List PcrValue
  deriving DecidableEq

namespace TpmQuote

def generated : Nat := 0xFF544347

def quoteType : Nat := 0x8018

/-- Clock, reset and restart counters, and a flag. -/
def clockInfoLength : Nat := 17

/-- The signed part of a quote. -/
structure Attested where
  qualifiedSigner : Bytes
  extraData : Bytes
  firmwareVersion : UInt64
  selections : List PcrSelection
  pcrDigest : Bytes

def readAttested : QuoteReader Attested := do
  if (← Cursor.number 4 "magic") ≠ generated then throw .notGenerated
  if (← Cursor.number 2 "type") ≠ quoteType then throw .notQuote
  let qualifiedSigner ← Cursor.sized "qualifiedSigner"
  let extraData ← Cursor.sized "extraData"
  let _ ← Cursor.take clockInfoLength "clockInfo"
  let firmwareVersion := UInt64.ofNat (← Cursor.number 8 "firmwareVersion")
  let count ← Cursor.number 4 "pcrSelect count"
  let selections ← Cursor.times PcrSelection.read count
  let pcrDigest ← Cursor.sized "pcrDigest"
  pure ⟨qualifiedSigner, extraData, firmwareVersion, selections, pcrDigest⟩

/-- The selected registers in the order of the selections. -/
def selected (selections : List PcrSelection) : List PcrId :=
  selections.flatMap fun selection => selection.pcrs.map fun index => ⟨index, selection.bank⟩

def readValue (pcr : PcrId) : QuoteReader PcrValue := do
  let digest ← Cursor.take pcr.bank.digestLength "PCR value"
  match PcrValue.ofDigest pcr digest with
  | .ok value => pure value
  | .error violation => throw (.invalidValue violation)

def readValues : List PcrId → QuoteReader (List PcrValue)
  | [] => pure []
  | pcr :: rest => do
      let value ← readValue pcr
      let values ← readValues rest
      pure (value :: values)

def readEnd : QuoteReader Unit := do
  let cursor ← get
  if cursor.rest.isEmpty then pure () else throw (.trailing cursor.rest.length)

def read : QuoteReader TpmQuote := do
  let bytes ← Cursor.sized "TPM2B_ATTEST"
  let (attested, _) ← readAttested.run (.ofBytes bytes)
  let signature ← QuoteSignature.read
  let values ← readValues (selected attested.selections)
  readEnd
  pure
    { qualifiedSigner := attested.qualifiedSigner
      extraData := attested.extraData
      firmwareVersion := attested.firmwareVersion
      selections := attested.selections
      pcrDigest := attested.pcrDigest
      signature := signature
      values := values }

def parse (blob : Bytes) : Except QuoteFault TpmQuote :=
  (read.run (.ofBytes blob)).map Prod.fst

/-! ## Writing

Lengths are written in two bytes, of which a longer length keeps the lowest. -/

def encodeAttested (quote : TpmQuote) : Bytes :=
  BigEndian.encode 4 generated ++ BigEndian.encode 2 quoteType ++
    QuoteSignature.sized quote.qualifiedSigner ++ QuoteSignature.sized quote.extraData ++
    List.replicate clockInfoLength 0 ++ BigEndian.encode 8 quote.firmwareVersion.toNat ++
    BigEndian.encode 4 quote.selections.length ++
    quote.selections.flatMap PcrSelection.encode ++ QuoteSignature.sized quote.pcrDigest

def encode (quote : TpmQuote) : Bytes :=
  QuoteSignature.sized quote.encodeAttested ++ quote.signature.encode ++
    quote.values.flatMap PcrValue.digest

/-! ## Checks -/

/-- A quote answers the request whose nonce it names. -/
def verifyNonce (quote : TpmQuote) (nonce : Bytes) : Except QuoteFault Unit :=
  if quote.extraData = nonce then .ok () else .error (.nonceMismatch quote.extraData nonce)

/-- Recomputes the digest over the values in the order of the selections. The algorithm is the
one with the width of the attested digest. -/
def verifyPcrDigest (quote : TpmQuote) : Except QuoteFault Bytes :=
  match HashAlgorithm.ofDigestLength? quote.pcrDigest.length with
  | none => .error (.digestWidth quote.pcrDigest.length)
  | some algorithm =>
      let digest := PcrValue.digestAll algorithm quote.values
      if digest = quote.pcrDigest then .ok digest
      else .error (.digestMismatch digest quote.pcrDigest)

end TpmQuote

end HostAttestation
