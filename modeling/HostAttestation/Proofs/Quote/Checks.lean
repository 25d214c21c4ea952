import HostAttestation.Quote.Basic

/-! # Checks of a quote

A quote passes its checks exactly if it names the nonce of the request and its attested digest is
the digest of its values. -/

namespace HostAttestation

namespace TpmQuote

/-- The attested digest is the one of the quoted values, in the order of the quote. -/
def Attests (quote : TpmQuote) : Prop :=
  ∃ algorithm : HashAlgorithm, algorithm.digestLength = quote.pcrDigest.length ∧
    algorithm.digest (quote.values.flatMap PcrValue.digest) = quote.pcrDigest

theorem verifyNonce_eq_ok_iff (quote : TpmQuote) (nonce : Bytes) :
    quote.verifyNonce nonce = .ok () ↔ quote.extraData = nonce := by
  unfold verifyNonce
  split
  next same => simp [same]
  next different => simp [different]

theorem verifyPcrDigest_eq_ok_iff (quote : TpmQuote) (digest : Bytes) :
    quote.verifyPcrDigest = .ok digest ↔ quote.Attests ∧ quote.pcrDigest = digest := by
  unfold verifyPcrDigest
  cases found : HashAlgorithm.ofDigestLength? quote.pcrDigest.length with
  | none =>
      have unattested : ¬quote.Attests := by
        rintro ⟨algorithm, width, -⟩
        rw [(HashAlgorithm.ofDigestLength?_eq_some_iff _ _).mpr width] at found
        cases found
      simp [unattested]
  | some algorithm =>
      -- The width leaves no choice of the algorithm.
      have attests : quote.Attests ↔
          PcrValue.digestAll algorithm quote.values = quote.pcrDigest := by
        constructor
        · rintro ⟨other, width, same⟩
          rw [(HashAlgorithm.ofDigestLength?_eq_some_iff _ _).mpr width] at found
          cases found
          exact same
        · intro same
          exact ⟨algorithm, (HashAlgorithm.ofDigestLength?_eq_some_iff _ _).mp found, same⟩
      rw [attests]
      by_cases same : PcrValue.digestAll algorithm quote.values = quote.pcrDigest
      · simp [same]
      · simp [same]

/-- Whether the quote has a value of a register. -/
def quotes (quote : TpmQuote) (pcr : PcrId) : Bool :=
  (quote.values.map PcrValue.pcr).contains pcr

theorem quotes_iff (quote : TpmQuote) (pcr : PcrId) :
    quote.quotes pcr ↔ ∃ value ∈ quote.values, value.pcr = pcr := by
  simp [quotes]

end TpmQuote

end HostAttestation
