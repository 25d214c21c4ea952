import HostAttestation.Proofs.Quote.Checks
import HostAttestation.Proofs.Quote.RoundTrip

/-! # Values bound by the attested structure

The values of a quote stand outside of the structure that is signed. The structure nevertheless
determines their registers, their order and so the widths of their digests; other values under
the same structure are accepted only if they collide with the first ones under the hash that the
structure selects. -/

namespace HostAttestation

open BigEndian (capacity)

namespace PcrValue

/-- The digests of values one after the other can be cut in one way only once the registers of the
values are known, whatever banks they mix. -/
theorem eq_of_flatMap_digest_eq {left right : List PcrValue}
    (registers : left.map pcr = right.map pcr)
    (same : left.flatMap digest = right.flatMap digest) : left = right := by
  induction left generalizing right with
  | nil =>
      cases right with
      | nil => rfl
      | cons => cases registers
  | cons first rest induction =>
      cases right with
      | nil => cases registers
      | cons other others =>
          rcases List.cons.inj registers with ⟨register, restRegisters⟩
          have widths : first.digest.length = other.digest.length := by
            rw [first.width, other.width, register]
          rw [List.flatMap_cons, List.flatMap_cons] at same
          rcases List.append_inj same widths with ⟨digests, restSame⟩
          have firsts : first = other := by
            cases first
            cases other
            cases register
            cases digests
            rfl
          rw [firsts, induction restRegisters restSame]

theorem length_flatMap_digest_eq {left right : List PcrValue}
    (registers : left.map pcr = right.map pcr) :
    (left.flatMap digest).length = (right.flatMap digest).length := by
  induction left generalizing right with
  | nil =>
      cases right with
      | nil => rfl
      | cons => cases registers
  | cons first rest induction =>
      cases right with
      | nil => cases registers
      | cons other others =>
          rcases List.cons.inj registers with ⟨register, restRegisters⟩
          rw [List.flatMap_cons, List.flatMap_cons, List.length_append, List.length_append,
            first.width, other.width, register, induction restRegisters]

end PcrValue

/-- Different strings of one length with one digest under the hash of a digest width. -/
structure Collision (width : Nat) (left right : Bytes) : Prop where
  different : left ≠ right
  length : left.length = right.length
  hashed : ∃ algorithm, HashAlgorithm.ofDigestLength? width = some algorithm ∧
    algorithm.digest left = algorithm.digest right

namespace TpmQuote

/-- The bytes of a blob that its first two bytes count, which hold the attested structure. -/
def attestedBytes (blob : Bytes) : Bytes :=
  (blob.drop 2).take (BigEndian.decode (blob.take 2))

theorem attestedBytes_sized_append {attested : Bytes} (fits : attested.length < capacity 2)
    (rest : Bytes) : attestedBytes (QuoteSignature.sized attested ++ rest) = attested := by
  have width : (BigEndian.encode 2 attested.length).length = 2 :=
    BigEndian.length_encode 2 attested.length
  rw [attestedBytes, QuoteSignature.sized, List.append_assoc, List.take_left' width,
    List.drop_left' width, BigEndian.decode_encode_of_lt fits, List.take_left]

theorem attested_eq_of_attestedBytes_eq {left right : Bytes} {leftQuote rightQuote : TpmQuote}
    (leftFormed : Form.quote left leftQuote) (rightFormed : Form.quote right rightQuote)
    (same : attestedBytes left = attestedBytes right) :
    leftQuote.attested = rightQuote.attested := by
  rcases leftFormed with ⟨_, _, _, _, leftAttested, leftFits, _, _, rfl⟩
  rcases rightFormed with ⟨_, _, _, _, rightAttested, rightFits, _, _, rfl⟩
  rw [attestedBytes_sized_append leftFits, attestedBytes_sized_append rightFits] at same
  exact (Reads.attested.unique leftAttested rightAttested same).2.1

theorem map_pcr_of_form {blob : Bytes} {quote : TpmQuote} (formed : Form.quote blob quote) :
    quote.values.map PcrValue.pcr = selected quote.selections :=
  (PcrSelection.coverInTurn_iff _ _).mp (wellFormed_of_form formed).values

/-- Two digest checks against one attested digest hash with one algorithm. -/
theorem digest_eq_of_attests {left right : TpmQuote} (leftAttests : left.Attests)
    (rightAttests : right.Attests) (same : left.pcrDigest = right.pcrDigest) :
    ∃ algorithm, HashAlgorithm.ofDigestLength? left.pcrDigest.length = some algorithm ∧
      algorithm.digest (left.values.flatMap PcrValue.digest) =
        algorithm.digest (right.values.flatMap PcrValue.digest) := by
  rcases leftAttests with ⟨algorithm, width, leftDigest⟩
  rcases rightAttests with ⟨other, otherWidth, rightDigest⟩
  have selected := (HashAlgorithm.ofDigestLength?_eq_some_iff _ algorithm).mpr width
  have otherSelected := (HashAlgorithm.ofDigestLength?_eq_some_iff _ other).mpr otherWidth
  rw [← same, selected] at otherSelected
  cases otherSelected
  exact ⟨algorithm, selected, by rw [leftDigest, rightDigest, same]⟩

/-- Blobs that share the bytes of their attested structures, and whose quotes pass the check of
their digest, hold the same values or give a collision. -/
theorem values_eq_or_collision {left right : Bytes} {leftQuote rightQuote : TpmQuote}
    {leftDigest rightDigest : Bytes} (same : attestedBytes left = attestedBytes right)
    (leftParsed : parse left = .ok leftQuote) (rightParsed : parse right = .ok rightQuote)
    (leftChecked : leftQuote.verifyPcrDigest = .ok leftDigest)
    (rightChecked : rightQuote.verifyPcrDigest = .ok rightDigest) :
    leftQuote.values.map PcrValue.pcr = rightQuote.values.map PcrValue.pcr ∧
      (leftQuote.values = rightQuote.values ∨
        Collision leftQuote.pcrDigest.length (leftQuote.values.flatMap PcrValue.digest)
          (rightQuote.values.flatMap PcrValue.digest)) := by
  have leftFormed := (parse_eq_ok_iff left leftQuote).mp leftParsed
  have rightFormed := (parse_eq_ok_iff right rightQuote).mp rightParsed
  have attested := attested_eq_of_attestedBytes_eq leftFormed rightFormed same
  have selections : leftQuote.selections = rightQuote.selections :=
    congrArg Attested.selections attested
  have registers : leftQuote.values.map PcrValue.pcr = rightQuote.values.map PcrValue.pcr := by
    rw [map_pcr_of_form leftFormed, map_pcr_of_form rightFormed, selections]
  have leftAttests := ((leftQuote.verifyPcrDigest_eq_ok_iff leftDigest).mp leftChecked).1
  have rightAttests := ((rightQuote.verifyPcrDigest_eq_ok_iff rightDigest).mp rightChecked).1
  refine ⟨registers, ?_⟩
  by_cases equal : leftQuote.values.flatMap PcrValue.digest =
      rightQuote.values.flatMap PcrValue.digest
  · exact .inl (PcrValue.eq_of_flatMap_digest_eq registers equal)
  · have lengths : (leftQuote.values.flatMap PcrValue.digest).length =
        (rightQuote.values.flatMap PcrValue.digest).length :=
      PcrValue.length_flatMap_digest_eq registers
    exact .inr ⟨equal, lengths,
      digest_eq_of_attests leftAttests rightAttests (congrArg Attested.pcrDigest attested)⟩

/-- Values of registers of two banks. -/
def mixedValues : List PcrValue :=
  [⟨⟨⟨0, by decide⟩, .sha1⟩, List.replicate 20 1, by decide⟩,
    ⟨⟨⟨7, by decide⟩, .sha256⟩, List.replicate 32 2, by decide⟩]

/-- A quote of the mixed values under any signature. -/
def mixed (signature : QuoteSignature) : TpmQuote where
  qualifiedSigner := []
  extraData := [0xAB]
  firmwareVersion := 7
  selections := [⟨.sha1, [⟨0, by decide⟩]⟩, ⟨.sha256, [⟨7, by decide⟩]⟩]
  pcrDigest := HashAlgorithm.sha384.digest (mixedValues.flatMap PcrValue.digest)
  signature := signature
  values := mixedValues

theorem attestedLength_mixed (signature : QuoteSignature) :
    (mixed signature).attestedLength = 102 := by
  simp [mixed, attestedLength, HashAlgorithm.digestLength]

theorem parse_encode_mixed {signature : QuoteSignature} (writable : signature.Writable) :
    parse (mixed signature).encode = .ok (mixed signature) := by
  have wellFormed : (mixed signature).WellFormed :=
    ⟨by simp [mixed, PcrSelection.Ascending], (PcrSelection.coverInTurn_iff _ _).mpr rfl, writable⟩
  have short : (mixed signature).attestedLength ≤ 65535 := by
    rw [attestedLength_mixed]
    decide
  exact (parse_eq_ok_iff _ _).mpr (form_encode wellFormed short)

theorem attestedBytes_encode_mixed (signature : QuoteSignature) :
    attestedBytes (mixed signature).encode = (mixed ⟨0, 0, []⟩).encodeAttested := by
  have fits : (mixed signature).encodeAttested.length < capacity 2 := by
    rw [length_encodeAttested, attestedLength_mixed]
    decide
  rw [encode, List.append_assoc, attestedBytes_sized_append fits]
  rfl

theorem verifyPcrDigest_mixed (signature : QuoteSignature) :
    (mixed signature).verifyPcrDigest = .ok (mixed signature).pcrDigest :=
  (verifyPcrDigest_eq_ok_iff _ _).mpr
    ⟨⟨.sha384, (HashAlgorithm.length_digest _ _).symm, rfl⟩, rfl⟩

/-- The signature may differ, and the blobs with it. -/
theorem values_eq_or_collision_of_signatures :
    (mixed ⟨0x0010, 0, []⟩).signature ≠ (mixed ⟨0x0014, 11, [5]⟩).signature ∧
    attestedBytes (mixed ⟨0x0010, 0, []⟩).encode = attestedBytes (mixed ⟨0x0014, 11, [5]⟩).encode ∧
    parse (mixed ⟨0x0010, 0, []⟩).encode = .ok (mixed ⟨0x0010, 0, []⟩) ∧
    parse (mixed ⟨0x0014, 11, [5]⟩).encode = .ok (mixed ⟨0x0014, 11, [5]⟩) ∧
    ((mixed ⟨0x0010, 0, []⟩).values = (mixed ⟨0x0014, 11, [5]⟩).values ∨
      Collision (mixed ⟨0x0010, 0, []⟩).pcrDigest.length
        ((mixed ⟨0x0010, 0, []⟩).values.flatMap PcrValue.digest)
        ((mixed ⟨0x0014, 11, [5]⟩).values.flatMap PcrValue.digest)) := by
  have same : attestedBytes (mixed ⟨0x0010, 0, []⟩).encode =
      attestedBytes (mixed ⟨0x0014, 11, [5]⟩).encode := by
    rw [attestedBytes_encode_mixed, attestedBytes_encode_mixed]
  have unsigned : parse (mixed ⟨0x0010, 0, []⟩).encode = .ok (mixed ⟨0x0010, 0, []⟩) :=
    parse_encode_mixed (.inl ⟨rfl, rfl, rfl⟩)
  have signed : parse (mixed ⟨0x0014, 11, [5]⟩).encode = .ok (mixed ⟨0x0014, 11, [5]⟩) :=
    parse_encode_mixed (.inr (.inl ⟨.inl rfl, by decide⟩))
  exact ⟨by simp [mixed], same, unsigned, signed,
    (values_eq_or_collision same unsigned signed (verifyPcrDigest_mixed _)
      (verifyPcrDigest_mixed _)).2⟩

end TpmQuote

end HostAttestation
