import HostAttestation.Proofs.Quote.Form

/-! # The form of signatures

A signature is read from its scheme alone if it has none, else from its scheme, its hash and one
or two buffers. -/

namespace HostAttestation

open BigEndian (capacity encode)

/-- The bytes of a signature under a scheme that has some. The halves of an elliptic curve
signature may be of any lengths. -/
def Form.signatureBytes (scheme : UInt16) : Form Bytes := fun bytes value =>
  ((scheme = QuoteSignature.rsaPkcs ∨ scheme = QuoteSignature.rsaPss) ∧ Form.sized bytes value) ∨
    (scheme = QuoteSignature.ellipticCurve ∧ ∃ first second : Bytes,
      first.length < capacity 2 ∧ second.length < capacity 2 ∧ value = first ++ second ∧
      bytes = QuoteSignature.sized first ++ QuoteSignature.sized second)

theorem Reads.signatureBytes (scheme : UInt16) :
    Reads (QuoteSignature.readBytes scheme) (Form.signatureBytes scheme) := by
  have halves := (Reads.sized "signatureR").bind fun first =>
    (Reads.sized "signatureS").bind fun second => Reads.pure (first ++ second)
  refine (Reads.ite _ (Reads.sized "signature") (Reads.ite _ halves (Reads.throw _))).congr ?_
  intro bytes value
  by_cases whole : scheme = QuoteSignature.rsaPkcs ∨ scheme = QuoteSignature.rsaPss
  · have notCurve : scheme ≠ QuoteSignature.ellipticCurve := by
      rcases whole with rfl | rfl <;> decide
    simp [Form.signatureBytes, whole, notCurve]
  · by_cases curve : scheme = QuoteSignature.ellipticCurve
    · rw [if_neg whole, if_pos curve]
      constructor
      · rintro ⟨_, first, _, ⟨rfl, firstFits⟩, ⟨_, second, _, ⟨rfl, secondFits⟩, ⟨rfl, rfl⟩, rfl⟩,
          rfl⟩
        exact .inr ⟨curve, first, second, firstFits, secondFits, rfl, by simp⟩
      · rintro (⟨other, _⟩ | ⟨_, first, second, firstFits, secondFits, rfl, rfl⟩)
        · exact absurd other whole
        · exact ⟨_, first, _, ⟨rfl, firstFits⟩, ⟨_, second, [], ⟨rfl, secondFits⟩, ⟨rfl, rfl⟩,
            (List.append_nil _).symm⟩, rfl⟩
    · simp [Form.signatureBytes, whole, curve]

theorem ne_noScheme_of_signatureBytes {scheme : UInt16} {bytes value : Bytes}
    (formed : Form.signatureBytes scheme bytes value) : scheme ≠ QuoteSignature.noScheme := by
  rcases formed with ⟨rfl | rfl, _⟩ | ⟨rfl, _⟩ <;> decide

def Form.signature : Form QuoteSignature := fun bytes signature =>
  (signature = ⟨QuoteSignature.noScheme, 0, []⟩ ∧
      bytes = encode 2 QuoteSignature.noScheme.toNat) ∨
    ∃ part, Form.signatureBytes signature.scheme part signature.bytes ∧
      bytes = encode 2 signature.scheme.toNat ++ (encode 2 signature.hash.toNat ++ part)

theorem toNat_ofNat_of_lt_capacity {number : Nat} (fits : number < capacity 2) :
    (UInt16.ofNat number).toNat = number :=
  UInt16.toNat_ofNat_of_lt' fits

theorem Form.number_toNat (word : UInt16) : Form.number 2 (encode 2 word.toNat) word.toNat :=
  ⟨rfl, word.toNat_lt⟩

theorem Reads.signature : Reads QuoteSignature.read Form.signature := by
  refine ((Reads.number 2 "sigAlg").bind fun scheme => Reads.ite _
    (Reads.pure (QuoteSignature.mk (UInt16.ofNat scheme) 0 []))
    ((Reads.number 2 "signature hash").bind fun hash =>
      (Reads.signatureBytes (UInt16.ofNat scheme)).bind fun bytes =>
        Reads.pure (QuoteSignature.mk (UInt16.ofNat scheme) (UInt16.ofNat hash) bytes))).congr ?_
  intro bytes signature
  constructor
  · rintro ⟨_, scheme, _, ⟨rfl, fits⟩, rest, rfl⟩
    have word := toNat_ofNat_of_lt_capacity fits
    split at rest
    next none =>
      rcases rest with ⟨rfl, rfl⟩
      rw [none] at word
      exact .inl ⟨by rw [none], by rw [word, List.append_nil]⟩
    next =>
      rcases rest with ⟨_, hash, _, ⟨rfl, hashFits⟩, ⟨part, value, _, formed, ⟨rfl, rfl⟩, rfl⟩, rfl⟩
      have hashWord := toNat_ofNat_of_lt_capacity hashFits
      exact .inr ⟨part, formed, by rw [word, hashWord, List.append_nil]⟩
  · rintro (⟨rfl, rfl⟩ | ⟨part, formed, rfl⟩)
    · exact ⟨_, _, [], Form.number_toNat _, by simp, (List.append_nil _).symm⟩
    · refine ⟨_, _, _, Form.number_toNat signature.scheme, ?_, rfl⟩
      rw [UInt16.ofNat_toNat, if_neg (ne_noScheme_of_signatureBytes formed)]
      exact ⟨_, _, part, Form.number_toNat signature.hash,
        ⟨part, signature.bytes, [], formed, ⟨rfl, by rw [UInt16.ofNat_toNat]⟩,
          (List.append_nil part).symm⟩, rfl⟩

end HostAttestation
