import HostAttestation.Connector.Hypervisor
import HostAttestation.Proofs.Connector.Interview
import HostAttestation.Proofs.Connector.QuoteAcceptance
import HostAttestation.Proofs.Quote.Binding
import HostAttestation.Proofs.Run
import HostAttestation.Proofs.Vcenter.ReportAcceptance

/-! # Manifests and the registers asked for

A host behind a vCenter gives out registers that were asked for and no others, whatever the vCenter
reports. A host with a trust agent hands the request on and gives out what the agent quotes, so its
manifest is restricted to the request exactly if the quote is. -/

namespace HostAttestation

namespace PcrManifest

/-- The manifest tells of nothing that was not asked for. -/
structure Restricted (manifest : PcrManifest) (pcrs : List PcrIndex) (banks : List PcrBank) :
    Prop where
  values : ∀ value ∈ manifest.values.items, value.pcr.IsAsked pcrs banks
  eventLogs : ∀ entry ∈ manifest.eventLogs.items, entry.pcr.IsAsked pcrs banks

theorem keep_of_holds {manifest : PcrManifest} {values : List PcrValue} {keep : PcrId → Bool}
    {entries : List EventLogEntry} (holds : manifest.Holds values keep entries)
    {entry : EventLogEntry} (member : entry ∈ manifest.eventLogs.items) : keep entry.pcr := by
  by_contra dropped
  have grouped := holds.logs entry.pcr
  rw [if_neg fun kept => dropped kept.1, List.map_eq_nil_iff, List.filter_eq_nil_iff] at grouped
  exact grouped entry member (by simp)

/-- Logs are kept for reported registers only, so the values decide. -/
theorem restricted_iff_of_holds {manifest : PcrManifest} {values : List PcrValue}
    {keep : PcrId → Bool} {entries : List EventLogEntry}
    (holds : manifest.Holds values keep entries)
    (reported : ∀ pcr, keep pcr → ∃ value ∈ values, value.pcr = pcr) (pcrs : List PcrIndex)
    (banks : List PcrBank) :
    manifest.Restricted pcrs banks ↔ ∀ value ∈ values, value.pcr.IsAsked pcrs banks := by
  constructor
  · intro restricted value member
    exact restricted.values value (holds.values.mem_iff.mpr member)
  · intro asked
    constructor
    · intro value member
      exact asked value (holds.values.mem_iff.mp member)
    · intro entry member
      rcases reported entry.pcr (keep_of_holds holds member) with ⟨value, valueMember, named⟩
      rw [← named]
      exact asked value valueMember

end PcrManifest

namespace Vcenter

theorem ReportContent.restricted_of_evidence {content : ReportContent} {pcrs : List PcrIndex}
    {banks : List PcrBank} {manifest : PcrManifest}
    (evident : content.evidence pcrs banks = .ok manifest) : manifest.Restricted pcrs banks := by
  rcases (content.evidence_eq_ok_iff pcrs banks manifest).mp evident with ⟨values, accepted, shown⟩
  rcases exists_entered accepted.sound with ⟨entries, entered⟩
  have holds := (shownBy_iff_of_entered entered (isWanted pcrs banks) values manifest).mp shown
  constructor
  · intro value member
    have wanted := (mem_wantedValues_iff _ values value).mp (holds.values.mem_iff.mp member)
    exact (isWanted_iff pcrs banks value.pcr).mp wanted.2
  · intro entry member
    exact (isWanted_iff pcrs banks entry.pcr).mp (PcrManifest.keep_of_holds holds member)

theorem AttestationReport.restricted_of_pcrManifest {report : AttestationReport}
    {pcrs : List PcrIndex} {banks : List PcrBank} {manifest : PcrManifest}
    (shown : report.pcrManifest pcrs banks = .ok manifest) : manifest.Restricted pcrs banks := by
  rcases (report.pcrManifest_eq_ok_iff pcrs banks manifest).mp shown with ⟨-, content, -, shown⟩
  exact ReportContent.restricted_of_evidence
    ((content.pcrManifest_eq_ok_iff pcrs banks manifest).mp shown)

end Vcenter

namespace Connector

variable {σ : Type}

/-- What is given out comes from the report, and the digest is that of the manifest. -/
theorem Hypervisor.pcrManifest_of_runs {api : Vcenter.Api σ} {name : String}
    {pcrs : List PcrIndex} {banks : List PcrBank} {before after : σ} {manifest : HostManifest}
    (run : Runs (Hypervisor.manifest api name pcrs banks) before (.ok manifest) after) :
    ∃ report middle, Runs (api.attestationReport name) before (.ok report) middle ∧
      report.pcrManifest pcrs banks = .ok manifest.pcrManifest ∧
      manifest.quoteDigest = Hex.encode (manifest.pcrManifest.digest .sha256) := by
  rcases Runs.bind_ok_iff.mp run with ⟨report, middle, reported, run⟩
  rcases Runs.bind_ok_iff.mp run with ⟨pcrManifest, _, verified, run⟩
  rcases Runs.bind_ok_iff.mp run with ⟨hostInfo, _, _, run⟩
  cases (Runs.pure_iff.mp run).1
  exact ⟨report, middle, reported, (Runs.liftExcept_iff.mp verified).1.symm, rfl⟩

namespace TrustAgent

/-- The manifest comes from an answer of the agent to the same request. -/
theorem pcrManifest_of_runs {agent : Agent.Client σ} {nonce : String} {pcrs : List PcrIndex}
    {banks : List PcrBank} {before after : σ} {manifest : HostManifest}
    (run : Runs (TrustAgent.manifest agent nonce pcrs banks) before (.ok manifest) after) :
    ∃ nonceBytes response asking answered,
      Runs (agent.quote nonce pcrs banks) asking (.ok response) answered ∧
        pcrManifest nonceBytes response = .ok (manifest.pcrManifest, manifest.quoteDigest) := by
  cases decoded : Base64.decode? nonce with
  | none => cases ((runs_of_refused decoded).mp run).1
  | some nonceBytes =>
      rcases (runs_manifest_iff decoded).mp run with
        ⟨failure, -, refused⟩ | ⟨answers, _, offered, answered, -, made⟩
      · cases refused
      · have verified := Answers.pcrManifest_of_manifest_eq_ok made.symm
        rcases runs_answers_iff.mp answered with ⟨asked, interview⟩
        cases interview with
        | complete informs quotes certifies => exact ⟨nonceBytes, _, _, _, quotes, verified⟩

/-- A quote has values of exactly the registers whose logs are kept. -/
theorem restricted_iff_of_pcrManifest {nonce : Bytes} {response : Agent.QuoteResponse}
    {shown : PcrManifest} {digest : String}
    (verified : pcrManifest nonce response = .ok (shown, digest)) :
    ∃ quote, TpmQuote.parse response.quote = .ok quote ∧ shown.values.items.Perm quote.values ∧
      ∀ pcrs banks, shown.Restricted pcrs banks ↔
        ∀ value ∈ quote.values, value.pcr.IsAsked pcrs banks := by
  rcases (pcrManifest_eq_ok_iff nonce response shown digest).mp verified with
    ⟨quote, entries, accepted, holds, _⟩
  refine ⟨quote, accepted.parsed, holds.values, fun pcrs banks => ?_⟩
  exact PcrManifest.restricted_iff_of_holds holds (fun pcr => (quote.quotes_iff pcr).mp) pcrs banks

end TrustAgent

/-- What each host makes of the registers and banks that it is asked for. -/
theorem restricted_of_manifest :
    (∀ (api : Vcenter.Api σ) (name nonce : String) (pcrs : List PcrIndex) (banks : List PcrBank)
      (before after : σ) (manifest : HostManifest),
      Runs ((Hypervisor.host api name).manifest nonce pcrs banks) before (.ok manifest) after →
        manifest.pcrManifest.Restricted pcrs banks) ∧
    ∀ (agent : Agent.Client σ) (nonce : String) (pcrs : List PcrIndex) (banks : List PcrBank)
      (before after : σ) (manifest : HostManifest),
      Runs ((TrustAgent.host agent).manifest nonce pcrs banks) before (.ok manifest) after →
        ∃ response quote asking answered,
          Runs (agent.quote nonce pcrs banks) asking (.ok response) answered ∧
            TpmQuote.parse response.quote = .ok quote ∧
            manifest.pcrManifest.values.items.Perm quote.values ∧
            (manifest.pcrManifest.Restricted pcrs banks ↔
              ∀ value ∈ quote.values, value.pcr.IsAsked pcrs banks) := by
  constructor
  · intro api name nonce pcrs banks before after manifest run
    rcases Hypervisor.pcrManifest_of_runs run with ⟨report, _, _, shown, _⟩
    exact Vcenter.AttestationReport.restricted_of_pcrManifest shown
  · intro agent nonce pcrs banks before after manifest run
    rcases TrustAgent.pcrManifest_of_runs run with
      ⟨nonceBytes, response, asking, answered, asked, verified⟩
    rcases TrustAgent.restricted_iff_of_pcrManifest verified with ⟨quote, parsed, same, restricted⟩
    exact ⟨response, quote, asking, answered, asked, parsed, same, restricted pcrs banks⟩

/-! ## Platforms that tell more than they are asked for -/

/-- A report on register 0 of one bank and register 5 of another. -/
def reporting : Vcenter.Canned where
  report :=
    { logReliable := true
      content := [("tpmPcrValues", .array
        [(⟨0, "SHA1", List.replicate 20 1⟩ : Vcenter.DigestInfo).toJson,
          (⟨5, "SHA256", List.replicate 32 2⟩ : Vcenter.DigestInfo).toJson])] }

/-- What is left of the report for a request of register 5. -/
def reportingShown : PcrManifest where
  values := ⟨[⟨⟨⟨5, by decide⟩, .sha256⟩, List.replicate 32 2, by decide⟩], by simp⟩
  eventLogs := .empty

/-- Whatever is verified of a prepared report is given out. -/
theorem Hypervisor.exists_runs_canned {canned : Vcenter.Canned}
    (prepared : ∀ operation, canned.failure? operation = none) {pcrs : List PcrIndex}
    {banks : List PcrBank} {shown : PcrManifest}
    (verified : canned.report.pcrManifest pcrs banks = .ok shown) (name nonce : String) :
    ∃ manifest after,
      Runs ((host canned.api name).manifest nonce pcrs banks) {} (.ok manifest) after ∧
      manifest.pcrManifest = shown := by
  have answers : ∀ {α : Type} (operation : Operation) (value : α) (calls : Vcenter.Canned.Calls),
      Runs (canned.answer operation value) calls (.ok value) calls := by
    intro α operation value calls
    rw [Vcenter.Canned.answer, prepared]
    exact Runs.pure_iff.mpr ⟨rfl, rfl⟩
  have reported : Runs (canned.api.attestationReport name) {} (.ok canned.report) { report := 1 } :=
    Runs.bind (Runs.modify_iff.mpr ⟨rfl, rfl⟩) (answers _ _ _)
  have informed : Runs (canned.api.hostInfo name) { report := 1 }
      (.ok { canned.hostInfo with hostName := name }) { hostInfo := 1, report := 1 } :=
    Runs.bind (Runs.modify_iff.mpr ⟨rfl, rfl⟩) (answers _ _ _)
  have run : Runs (Hypervisor.manifest canned.api name pcrs banks) {} (.ok
      { hostInfo := { canned.hostInfo with hostName := name }
        pcrManifest := shown
        quoteDigest := Hex.encode (shown.digest .sha256)
        aikCertificate := none
        bindingKeyCertificate := none
        assetTagDigest := none
        measurementXmls := [] }) { hostInfo := 1, report := 1 } := by
    refine Runs.bind reported ?_
    refine Runs.bind (Runs.liftExcept_iff.mpr ⟨verified.symm, rfl⟩) ?_
    exact Runs.bind informed (Runs.pure_iff.mpr ⟨rfl, rfl⟩)
  exact ⟨_, _, run, rfl⟩

theorem Hypervisor.exists_runs_reporting :
    ∃ manifest after,
      Runs ((host reporting.api "esx-01").manifest "" [⟨5, by decide⟩] [.sha256]) {}
        (.ok manifest) after ∧
      manifest.pcrManifest = reportingShown :=
  exists_runs_canned (fun _ => rfl) rfl "esx-01" ""

/-- Whatever it is asked for, the agent quotes register 0 of one bank and register 7 of another. -/
def quoting : Agent.Canned where
  quote := { quote := (TpmQuote.mixed ⟨0x0010, 0, []⟩).encode }
  aik := some [0x30]

namespace TrustAgent

theorem exists_pcrManifest_quoting :
    ∃ shown digest, pcrManifest [0xAB] quoting.quote = .ok (shown, digest) ∧
      shown.values.items.Perm TpmQuote.mixedValues := by
  have distinct : (TpmQuote.mixedValues.map PcrValue.pcr).Nodup := by decide
  have verified : Verified [0xAB] quoting.quote (TpmQuote.mixed ⟨0x0010, 0, []⟩) [] :=
    { parsed := TpmQuote.parse_encode_mixed (.inl ⟨rfl, rfl, rfl⟩)
      answers := rfl
      attested := ((TpmQuote.verifyPcrDigest_eq_ok_iff _ _).mp
        (TpmQuote.verifyPcrDigest_mixed ⟨0x0010, 0, []⟩)).1
      logged := .absent
      distinct := distinct
      replayed := by simp }
  rcases PcrManifest.exists_holds distinct (TpmQuote.mixed ⟨0x0010, 0, []⟩).quotes [] with
    ⟨shown, holds⟩
  exact ⟨shown, _, (pcrManifest_eq_ok_iff _ _ _ _).mpr ⟨_, _, verified, holds, rfl⟩, holds.values⟩

theorem exists_runs_quoting (pcrs : List PcrIndex) (banks : List PcrBank) :
    ∃ manifest after,
      Runs ((host quoting.client).manifest "qw==" pcrs banks) {} (.ok manifest) after ∧
        manifest.pcrManifest.values.items.Perm TpmQuote.mixedValues := by
  rcases exists_pcrManifest_quoting with ⟨shown, digest, verified, same⟩
  have decoded : Base64.decode? "qw==" = some [0xAB] := by decide
  have answered : Runs (answers quoting.client "qw==" pcrs banks) {}
      (.ok ⟨{}, quoting.quote, [0x30]⟩) { quoteRequests := [⟨[0xAB], pcrs, banks⟩] } := rfl
  have made : ∃ manifest, Answers.manifest ⟨{}, quoting.quote, [0x30]⟩ [0xAB] none = .ok manifest ∧
      manifest.pcrManifest = shown := by
    rw [Answers.manifest, verified]
    exact ⟨_, rfl, rfl⟩
  rcases made with ⟨manifest, made, rfl⟩
  -- The certificate of the binding key was not prepared.
  have run := (runs_manifest_iff decoded).mpr (.inr ⟨_, _, .error _, answered, rfl, made.symm⟩)
  exact ⟨manifest, _, run, same⟩

end TrustAgent

/-- Asked for register 7 alone, the host of this agent gives out register 0 too. -/
theorem not_restricted_of_quoting :
    ∃ manifest after,
      Runs ((TrustAgent.host quoting.client).manifest "qw==" [⟨7, by decide⟩] [.sha256]) {}
        (.ok manifest) after ∧
      ¬manifest.pcrManifest.Restricted [⟨7, by decide⟩] [.sha256] := by
  rcases TrustAgent.exists_runs_quoting [⟨7, by decide⟩] [.sha256] with ⟨manifest, after, run, same⟩
  refine ⟨manifest, after, run, fun restricted => ?_⟩
  have member := same.mem_iff.mpr (List.mem_cons_self)
  have asked := (restricted.values _ member).1
  exact absurd asked (by decide)

/-- Of the report only what was asked for is given out, of the quote everything. -/
theorem restricted_of_manifest_reporting_and_quoting :
    (∃ manifest after,
      Runs ((Hypervisor.host reporting.api "esx-01").manifest "" [⟨5, by decide⟩] [.sha256]) {}
        (.ok manifest) after ∧
      manifest.pcrManifest = reportingShown ∧
      manifest.pcrManifest.Restricted [⟨5, by decide⟩] [.sha256]) ∧
    ∃ manifest after,
      Runs ((TrustAgent.host quoting.client).manifest "qw==" [⟨7, by decide⟩] [.sha256]) {}
        (.ok manifest) after ∧
      ∃ response quote asking answered,
        Runs (quoting.client.quote "qw==" [⟨7, by decide⟩] [.sha256]) asking (.ok response)
            answered ∧
          TpmQuote.parse response.quote = .ok quote ∧
          manifest.pcrManifest.values.items.Perm quote.values ∧
          (manifest.pcrManifest.Restricted [⟨7, by decide⟩] [.sha256] ↔
            ∀ value ∈ quote.values, value.pcr.IsAsked [⟨7, by decide⟩] [.sha256]) := by
  constructor
  · rcases Hypervisor.exists_runs_reporting with ⟨manifest, after, run, shown⟩
    exact ⟨manifest, after, run, shown, restricted_of_manifest.1 _ _ _ _ _ _ _ _ run⟩
  · rcases TrustAgent.exists_runs_quoting [⟨7, by decide⟩] [.sha256] with ⟨manifest, after, run, _⟩
    exact ⟨manifest, after, run, restricted_of_manifest.2 _ _ _ _ _ _ _ run⟩

end Connector

end HostAttestation
