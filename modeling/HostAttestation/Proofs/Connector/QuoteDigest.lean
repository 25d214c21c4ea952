import HostAttestation.Proofs.Connector.Selection
import HostAttestation.Proofs.Manifest.Groups

/-! # Digests of canonical quotes

The digest of a quote is taken over its values in the order of the quote, that of a manifest over
the same values in the order of the registers. Within a selection the order of a bitmap is that of
the registers, so the orders differ at most from bank to bank: if the quote selects bank by bank in
the order of the banks, both digests are the same. -/

namespace HostAttestation

namespace TpmQuote

/-- The quote selects from each bank at most once, in the order of the banks. -/
def BankByBank (quote : TpmQuote) : Prop :=
  quote.selections.Pairwise fun left right => left.bank.rank < right.bank.rank

variable {quote : TpmQuote}

theorem pairwise_selected (bankByBank : quote.BankByBank)
    (ascending : ∀ selection ∈ quote.selections, PcrSelection.Ascending selection.pcrs) :
    (selected quote.selections).Pairwise fun left right => left.Before right := by
  rw [selected, List.pairwise_flatMap]
  constructor
  · intro selection member
    refine List.pairwise_map.mpr (List.Pairwise.imp ?_ (ascending selection member))
    intro left right smaller
    exact .inr ⟨rfl, smaller⟩
  · refine List.Pairwise.imp ?_ bankByBank
    intro left right earlier first firstMember second secondMember
    rcases List.mem_map.mp firstMember with ⟨_, -, rfl⟩
    rcases List.mem_map.mp secondMember with ⟨_, -, rfl⟩
    exact .inl earlier

theorem WellFormed.pairwise_values (wellFormed : quote.WellFormed)
    (bankByBank : quote.BankByBank) :
    quote.values.Pairwise fun left right => left.pcr.position < right.pcr.position := by
  have registers := pairwise_selected bankByBank wellFormed.ascending
  rw [← (PcrSelection.coverInTurn_iff _ _).mp wellFormed.values, List.pairwise_map] at registers
  exact registers.imp fun before => (PcrId.position_lt_iff _ _).mpr before

end TpmQuote

namespace Connector

namespace TrustAgent

variable {nonce : Bytes} {response : Agent.QuoteResponse} {quote : TpmQuote}
  {manifest : PcrManifest} {digest : String}

/-- Values in the order of the registers stay as they are when they are put in this order. -/
theorem items_eq_values (holds : manifest.values.items.Perm quote.values)
    (wellFormed : quote.WellFormed) (bankByBank : quote.BankByBank) :
    manifest.values.items = quote.values :=
  eq_of_ascending (fun value => value.pcr.position) manifest.values.ordered
    (wellFormed.pairwise_values bankByBank) fun _ => holds.mem_iff

/-- The digest that is given out with a manifest is that of the manifest, under the algorithm that
has the width of the attested digest, whether the values are kept in one table or by banks. -/
theorem digest_of_bankByBank (verified : pcrManifest nonce response = .ok (manifest, digest))
    (parsed : TpmQuote.parse response.quote = .ok quote) (bankByBank : quote.BankByBank) :
    ∃ algorithm : HashAlgorithm, algorithm.digestLength = quote.pcrDigest.length ∧
      digest = Hex.encode (manifest.digest algorithm) ∧
      ∃ regrouped, GroupedManifest.ofValues quote.values manifest.eventLogs.groups = .ok regrouped ∧
        digest = Hex.encode (regrouped.digest algorithm) := by
  rcases (pcrManifest_eq_ok_iff nonce response manifest digest).mp verified with
    ⟨other, entries, accepted, holds, rfl⟩
  obtain rfl : other = quote := Except.ok.inj (accepted.parsed.symm.trans parsed)
  rcases accepted.attested with ⟨algorithm, width, attested⟩
  have wellFormed := TpmQuote.wellFormed_of_form ((TpmQuote.parse_eq_ok_iff _ _).mp parsed)
  have equal : manifest.digest algorithm = other.pcrDigest := by
    rw [PcrManifest.digest, items_eq_values holds.values wellFormed bankByBank]
    exact attested
  have regrouped : GroupedManifest.ofValues other.values manifest.eventLogs.groups =
      .ok manifest.grouped := by
    rw [GroupedManifest.ofValues_eq, (PcrManifest.ofValues_eq_ok_iff_perm _ _ manifest).mpr
      ⟨accepted.distinct, holds.values, rfl⟩]
    rfl
  refine ⟨algorithm, width, by rw [equal], manifest.grouped, regrouped, ?_⟩
  rw [manifest.digest_grouped, equal]

/-- Values of two widths under a digest of a third one. -/
theorem digest_of_bankByBank_mixed :
    ∃ manifest digest, pcrManifest [0xAB] quoting.quote = .ok (manifest, digest) ∧
      TpmQuote.parse quoting.quote.quote = .ok (TpmQuote.mixed ⟨0x0010, 0, []⟩) ∧
      (TpmQuote.mixed ⟨0x0010, 0, []⟩).BankByBank ∧
      ∃ algorithm : HashAlgorithm, algorithm.digestLength = 48 ∧
        digest = Hex.encode (manifest.digest algorithm) := by
  rcases exists_pcrManifest_quoting with ⟨manifest, digest, verified, -⟩
  have parsed : TpmQuote.parse quoting.quote.quote = .ok (TpmQuote.mixed ⟨0x0010, 0, []⟩) :=
    TpmQuote.parse_encode_mixed (.inl ⟨rfl, rfl, rfl⟩)
  have bankByBank : (TpmQuote.mixed ⟨0x0010, 0, []⟩).BankByBank := by
    simp [TpmQuote.BankByBank, TpmQuote.mixed, HashAlgorithm.rank]
  rcases digest_of_bankByBank verified parsed bankByBank with ⟨algorithm, width, equal, -⟩
  refine ⟨manifest, digest, verified, parsed, bankByBank, algorithm, ?_, equal⟩
  rw [width]
  exact HashAlgorithm.length_digest .sha384 _

end TrustAgent

end Connector

end HostAttestation
