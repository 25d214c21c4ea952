import HostAttestation.Quote.Cursor

/-! # Quote signatures

The signature of a quote is carried along and not verified. The two halves of an elliptic curve
signature are kept as one byte string. -/

namespace HostAttestation

structure QuoteSignature where
  scheme : UInt16
  hash : UInt16
  bytes : Bytes
  deriving DecidableEq

namespace QuoteSignature

def noScheme : UInt16 := 0x0010
def rsaPkcs : UInt16 := 0x0014
def rsaPss : UInt16 := 0x0016
def ellipticCurve : UInt16 := 0x0018

def readBytes (scheme : UInt16) : QuoteReader Bytes :=
  if scheme = rsaPkcs ∨ scheme = rsaPss then Cursor.sized "signature"
  else if scheme = ellipticCurve then do
    let first ← Cursor.sized "signatureR"
    let second ← Cursor.sized "signatureS"
    pure (first ++ second)
  else throw (.unsupportedSignature scheme.toNat)

/-- Without a scheme neither hash nor signature follow. -/
def read : QuoteReader QuoteSignature := do
  let scheme := UInt16.ofNat (← Cursor.number 2 "sigAlg")
  if scheme = noScheme then pure ⟨scheme, 0, []⟩
  else
    let hash := UInt16.ofNat (← Cursor.number 2 "signature hash")
    let bytes ← readBytes scheme
    pure ⟨scheme, hash, bytes⟩

/-- The length of a buffer, of which the lowest two bytes are kept, followed by the buffer. -/
def sized (bytes : Bytes) : Bytes :=
  BigEndian.encode 2 bytes.length ++ bytes

def encode (signature : QuoteSignature) : Bytes :=
  let scheme := BigEndian.encode 2 signature.scheme.toNat
  let hash := BigEndian.encode 2 signature.hash.toNat
  if signature.scheme = noScheme then scheme
  else if signature.scheme = ellipticCurve then
    let half := signature.bytes.length / 2
    scheme ++ hash ++ sized (signature.bytes.take half) ++ sized (signature.bytes.drop half)
  else scheme ++ hash ++ sized signature.bytes

end QuoteSignature

end HostAttestation
