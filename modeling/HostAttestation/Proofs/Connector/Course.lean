import HostAttestation.Proofs.Agent.Documents
import HostAttestation.Proofs.Connector.Interview
import HostAttestation.Proofs.Connector.Selection

/-! # Requests for a manifest from a trust agent

The first step that fails decides the error. A question that fails keeps its kind, and only such an
error can be retried; answers that are not accepted stay so. Whether the last question is answered
shows in one member of the manifest and nowhere else. -/

namespace HostAttestation

namespace Agent

/-- The kind that an error of a client keeps. What the agent reports counts as a failure of the
transport. -/
def Error.keptKind : Error → String
  | .invalidArgument _ => "InvalidArgument"
  | .configuration _ => "Configuration"
  | .transport _ _ => "Transport"
  | .reported _ _ _ => "Transport"
  | .timeout _ _ _ => "Timeout"
  | .decode _ _ => "Decode"

end Agent

namespace Connector

variable {σ : Type}

theorem Error.kind_ofAgent (operation : Operation) (error : Agent.Error) :
    (ofAgent operation error).kind = error.keptKind := by
  cases error <;> rfl

namespace TrustAgent

variable {agent : Agent.Client σ} {nonce : String} {pcrs : List PcrIndex} {banks : List PcrBank}

/-! ## What comes of the answers -/

theorem assetTagDigest_eq_error_iff (response : Agent.QuoteResponse) (causes : List Cause) :
    assetTagDigest response = .error causes ↔
      response.tagProvisioned ∧
        (∃ tag, response.assetTag = some tag ∧ ∀ bytes, tag ≠ Base64.encode bytes) ∧
        causes = [.stated "asset tag is not valid base64", .unstated] := by
  unfold assetTagDigest
  cases response.tagProvisioned with
  | false => simp
  | true =>
    cases response.assetTag with
    | none => simp
    | some tag =>
      have written : ∀ bytes, tag = Base64.encode bytes ↔ Base64.decode? tag = some bytes :=
        fun bytes => (Base64.decode?_eq_some_iff tag bytes).symm
      simp only [ne_eq, written, true_and, Option.some.injEq, exists_eq_left']
      cases Base64.decode? tag with
      | none => simp [eq_comm]
      | some bytes => simp

/-- What comes of the answers: once the registers are verified, only the tag may still be refused. -/
inductive Answers.Concludes (answers : Answers) (nonce : Bytes) (certificate : Option Bytes) :
    Except Error HostManifest → Prop
  | malformed {causes : List Cause} (malformed : Malformed nonce answers.response) :
      Concludes answers nonce certificate (.error (manifestError .decode causes))
  | unverified {causes : List Cause} (wellFormed : ¬Malformed nonce answers.response)
      (unverified : ∀ quote entries, ¬Verified nonce answers.response quote entries) :
      Concludes answers nonce certificate (.error (manifestError .validation causes))
  | unreadableTag {quote : TpmQuote} {entries : List EventLogEntry} {tag : String}
      (verified : Verified nonce answers.response quote entries)
      (provisioned : answers.response.tagProvisioned) (given : answers.response.assetTag = some tag)
      (unwritten : ∀ bytes, tag ≠ Base64.encode bytes) :
      Concludes answers nonce certificate
        (.error (manifestError .decode [.stated "asset tag is not valid base64", .unstated]))
  | shown {quote : TpmQuote} {entries : List EventLogEntry} {shown : PcrManifest}
      {tagDigest : Option String} (verified : Verified nonce answers.response quote entries)
      (holds : shown.Holds quote.values quote.quotes entries)
      (tagged : assetTagDigest answers.response = .ok tagDigest) :
      Concludes answers nonce certificate (.ok
        { hostInfo := answers.hostInfo
          pcrManifest := shown
          quoteDigest := Hex.encode quote.pcrDigest
          aikCertificate := some answers.aikCertificate
          bindingKeyCertificate := certificate
          assetTagDigest := tagDigest
          measurementXmls := answers.response.tcbMeasurements.measurements })

theorem Answers.concludes (answers : Answers) (nonce : Bytes) (certificate : Option Bytes) :
    answers.Concludes nonce certificate (answers.manifest nonce certificate) := by
  unfold Answers.manifest
  rcases Outcome.ok_or_error (pcrManifest nonce answers.response) with
    ⟨⟨shown, digest⟩, succeeds⟩ | ⟨error, fails⟩
  · rcases (pcrManifest_eq_ok_iff _ _ _ _).mp succeeds with ⟨quote, entries, verified, holds, rfl⟩
    rw [succeeds]
    rcases Outcome.ok_or_error (assetTagDigest answers.response) with
      ⟨tagDigest, tagged⟩ | ⟨causes, unreadable⟩
    · rw [tagged]
      exact .shown verified holds tagged
    · rw [unreadable]
      rcases (assetTagDigest_eq_error_iff _ _).mp unreadable with
        ⟨provisioned, ⟨tag, given, unwritten⟩, rfl⟩
      exact .unreadableTag verified provisioned given unwritten
  · rw [fails]
    rcases kind_of_pcrManifest_eq_error fails with
      ⟨malformed, causes, rfl⟩ | ⟨wellFormed, causes, rfl⟩
    · exact .malformed malformed
    · apply Answers.Concludes.unverified wellFormed
      intro quote entries verified
      rcases PcrManifest.exists_holds verified.distinct quote.quotes entries with ⟨shown, holds⟩
      have succeeds := (pcrManifest_eq_ok_iff _ _ _ _).mpr ⟨_, _, verified, holds, rfl⟩
      cases fails.symm.trans succeeds

/-- Either one of three questions fails and no other one is asked, or they are answered and the
fourth one is asked, which may fail. -/
inductive Course (agent : Agent.Client σ) (nonce : Bytes) (pcrs : List PcrIndex)
    (banks : List PcrBank) (before : σ) :
    (asked : List Agent.Action) → Except Error HostManifest → (after : σ) → Prop
  | stopped {asked : List Agent.Action} {failure : Agent.Error} {error : Error} {after : σ}
      (interview : Interview agent (Base64.encode nonce) pcrs banks before asked (.error failure)
        after)
      (told : error = Error.ofAgent .getHostManifest failure)
      (kept : error.kind = failure.keptKind) :
      Course agent nonce pcrs banks before asked (.error error) after
  | answered {asked : List Agent.Action} {answers : Answers} {middle after : σ}
      {offered : Except Agent.Error Bytes} {result : Except Error HostManifest}
      (interview : Interview agent (Base64.encode nonce) pcrs banks before asked (.ok answers)
        middle)
      (offers : Runs agent.bindingKeyCertificate middle offered after)
      (concludes : answers.Concludes nonce offered.toOption result) :
      Course agent nonce pcrs banks before (asked ++ [.bindingKeyCertificate]) result after

theorem course_of_runs {bytes : Bytes} {before : σ} {after : σ × List Agent.Action}
    {result : Except Error HostManifest}
    (run : Runs (manifest agent.noting (Base64.encode bytes) pcrs banks) (before, []) result
      after) :
    Course agent bytes pcrs banks before after.2 result after.1 := by
  have decoded := (Base64.decode?_eq_some_iff _ bytes).mpr rfl
  rcases interview_of_runs decoded run with
    ⟨failure, interview, rfl⟩ | ⟨asked, answers, middle, offered, interview, offers, last, rfl⟩
  · exact .stopped interview rfl (Error.kind_ofAgent _ failure)
  · rw [last]
    exact .answered interview offers (answers.concludes bytes offered.toOption)

end TrustAgent

end Connector

end HostAttestation
