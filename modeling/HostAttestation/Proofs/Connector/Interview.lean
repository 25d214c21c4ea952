import HostAttestation.Connector.TrustAgent
import HostAttestation.Proofs.Agent.Noting
import HostAttestation.Proofs.Bytes.Base64

/-! # Questions to the agent

A host with a trust agent asks it for a manifest in a fixed order: for its host, its quote, the
certificate of the key that signs quotes and, if all of them are answered, for the certificate of
the binding key. For a nonce that is not written in base64 it asks nothing. -/

namespace HostAttestation

namespace Connector

variable {σ α : Type}

theorem runs_ask_of_runs {operation : Operation} {call : Agent.Call σ α} {before after : σ}
    {outcome : Except Agent.Error α} (run : Runs call before outcome after) :
    Runs (ask operation call) before (outcome.mapError (Error.ofAgent operation)) after :=
  Runs.adapt_iff.mpr ⟨outcome, run, rfl⟩

/-- Questions one after the other are steps one after the other. -/
theorem ask_bind {β : Type} (operation : Operation) (call : Agent.Call σ α)
    (next : α → Agent.Call σ β) :
    ask operation (call >>= next) =
      ask operation call >>= fun value => ask operation (next value) := by
  apply ExceptT.ext
  funext before
  change runFrom (ask operation (call >>= next)) before = runFrom (ask operation call >>= _) before
  rw [ask, runFrom_adapt]
  rcases first : runFrom call before with ⟨error | value, middle⟩
  · rw [runFrom_bind_of_error first, runFrom_bind_of_error (runs_ask_of_runs first)]
    rfl
  · rw [runFrom_bind_of_ok first, runFrom_bind_of_ok (runs_ask_of_runs first), ask, runFrom_adapt]

theorem runs_askOptionally_iff {call : Agent.Call σ α} {before after : σ}
    {result : Except Error (Option α)} :
    Runs (askOptionally call) before result after ↔
      ∃ offered, Runs call before offered after ∧ result = .ok offered.toOption := by
  have unfolded : runFrom (askOptionally call) before =
      (.ok (runFrom call before).1.toOption, (runFrom call before).2) := by
    rcases first : runFrom call before with ⟨error | value, middle⟩ <;>
    · unfold runFrom at first
      change StateT.run (call.run >>= _) before = _
      rw [StateT.run_bind, first]
      rfl
  rcases first : runFrom call before with ⟨offered, left⟩
  simp [Runs, unfolded, first, eq_comm, and_comm]

namespace TrustAgent

/-! ## Answers and what is made of them -/

/-- What a manifest is made of. -/
structure Answers where
  hostInfo : HostInfo
  response : Agent.QuoteResponse
  aikCertificate : Bytes

def answers (agent : Agent.Client σ) (nonce : String) (pcrs : List PcrIndex)
    (banks : List PcrBank) : Agent.Call σ Answers := do
  let hostInfo ← agent.hostInfo
  let response ← agent.quote nonce pcrs banks
  let aikCertificate ← agent.aik
  pure ⟨hostInfo, response, aikCertificate⟩

/-- The manifest of the answers, with the certificate of the binding key if there is one. -/
def Answers.manifest (answers : Answers) (nonce : Bytes) (bindingKeyCertificate : Option Bytes) :
    Except Error HostManifest := do
  let (pcrManifest, quoteDigest) ← pcrManifest nonce answers.response
  let assetTagDigest ← step .decode id (assetTagDigest answers.response)
  pure
    { hostInfo := answers.hostInfo
      pcrManifest := pcrManifest
      quoteDigest := quoteDigest
      aikCertificate := some answers.aikCertificate
      bindingKeyCertificate := bindingKeyCertificate
      assetTagDigest := assetTagDigest
      measurementXmls := answers.response.tcbMeasurements.measurements }

variable {agent : Agent.Client σ} {nonce : String} {pcrs : List PcrIndex} {banks : List PcrBank}

/-- A manifest is given out for registers that are verified. -/
theorem Answers.pcrManifest_of_manifest_eq_ok {answers : Answers} {bytes : Bytes}
    {certificate : Option Bytes} {given : HostManifest}
    (made : answers.manifest bytes certificate = .ok given) :
    TrustAgent.pcrManifest bytes answers.response = .ok (given.pcrManifest, given.quoteDigest) := by
  rcases Outcome.bind_eq_ok_iff.mp made with ⟨⟨shown, digest⟩, verified, made⟩
  rcases Outcome.bind_eq_ok_iff.mp made with ⟨tagDigest, tagged, made⟩
  cases made
  exact verified

theorem manifest_eq_of_decode? {bytes : Bytes} (decoded : Base64.decode? nonce = some bytes) :
    manifest agent nonce pcrs banks = (do
      let answers ← ask .getHostManifest (answers agent nonce pcrs banks)
      let bindingKeyCertificate ← askOptionally agent.bindingKeyCertificate
      liftExcept (answers.manifest bytes bindingKeyCertificate)) := by
  unfold manifest answers
  rw [decoded]
  simp only [ask_bind, bind_assoc]
  apply bind_congr
  intro hostInfo
  apply bind_congr
  intro response
  apply bind_congr
  intro aikCertificate
  change _ = askOptionally agent.bindingKeyCertificate >>= _
  apply bind_congr
  intro bindingKeyCertificate
  unfold Answers.manifest
  cases pcrManifest bytes response with
  | error error => rfl
  | ok shown =>
    cases step .decode id (assetTagDigest response) with
    | error error => rfl
    | ok tagDigest => rfl

theorem runs_manifest_iff {bytes : Bytes} (decoded : Base64.decode? nonce = some bytes)
    {before after : σ} {result : Except Error HostManifest} :
    Runs (manifest agent nonce pcrs banks) before result after ↔
      (∃ failure, Runs (answers agent nonce pcrs banks) before (.error failure) after ∧
        result = .error (Error.ofAgent .getHostManifest failure)) ∨
      ∃ answers middle offered,
        Runs (TrustAgent.answers agent nonce pcrs banks) before (.ok answers) middle ∧
          Runs agent.bindingKeyCertificate middle offered after ∧
          result = answers.manifest bytes offered.toOption := by
  rw [manifest_eq_of_decode? decoded]
  constructor
  · intro run
    rcases Runs.bind_iff.mp run with ⟨error, stopped, rfl⟩ | ⟨answers, middle, answered, run⟩
    · rcases Runs.adapt_iff.mp stopped with ⟨inner, failed, same⟩
      rcases Outcome.mapError_eq_error_iff.mp same.symm with ⟨failure, rfl, rfl⟩
      exact .inl ⟨failure, failed, rfl⟩
    · rcases Runs.adapt_iff.mp answered with ⟨inner, succeeded, same⟩
      rw [Outcome.mapError_eq_ok_iff.mp same.symm] at succeeded
      rcases Runs.bind_liftExcept_iff.mp run with ⟨certificate, asked, rfl⟩
      rcases runs_askOptionally_iff.mp asked with ⟨offered, offers, rfl⟩
      exact .inr ⟨answers, middle, offered, succeeded, offers, rfl⟩
  · intro run
    rcases run with ⟨failure, failed, rfl⟩ | ⟨answers, middle, offered, succeeded, offers, rfl⟩
    · exact Runs.bind_iff.mpr (.inl ⟨_, runs_ask_of_runs failed, rfl⟩)
    · apply Runs.bind (runs_ask_of_runs succeeded)
      exact Runs.bind_liftExcept_iff.mpr
        ⟨_, runs_askOptionally_iff.mpr ⟨offered, offers, rfl⟩, rfl⟩

theorem runs_of_refused (refused : Base64.decode? nonce = none) {before after : σ}
    {result : Except Error HostManifest} :
    Runs (manifest agent nonce pcrs banks) before result after ↔
      result = .error
          (manifestError .invalidArgument [.stated "nonce is not valid base64", .unstated]) ∧
        after = before := by
  unfold manifest
  rw [refused]
  exact Runs.throw_iff

/-! ## The order of the questions -/

/-- What was asked until the first failure or the last answer. -/
inductive Interview (agent : Agent.Client σ) (nonce : String) (pcrs : List PcrIndex)
    (banks : List PcrBank) (before : σ) :
    (asked : List Agent.Action) → Except Agent.Error Answers → (after : σ) → Prop
  | withoutHostInfo {failure : Agent.Error} {after : σ}
      (failed : Runs agent.hostInfo before (.error failure) after) :
      Interview agent nonce pcrs banks before [.hostInfo] (.error failure) after
  | withoutQuote {hostInfo : HostInfo} {failure : Agent.Error} {informed after : σ}
      (informs : Runs agent.hostInfo before (.ok hostInfo) informed)
      (failed : Runs (agent.quote nonce pcrs banks) informed (.error failure) after) :
      Interview agent nonce pcrs banks before [.hostInfo, .quote nonce pcrs banks]
        (.error failure) after
  | withoutAik {hostInfo : HostInfo} {response : Agent.QuoteResponse} {failure : Agent.Error}
      {informed quoted after : σ} (informs : Runs agent.hostInfo before (.ok hostInfo) informed)
      (quotes : Runs (agent.quote nonce pcrs banks) informed (.ok response) quoted)
      (failed : Runs agent.aik quoted (.error failure) after) :
      Interview agent nonce pcrs banks before [.hostInfo, .quote nonce pcrs banks, .aik]
        (.error failure) after
  | complete {hostInfo : HostInfo} {response : Agent.QuoteResponse} {aikCertificate : Bytes}
      {informed quoted after : σ} (informs : Runs agent.hostInfo before (.ok hostInfo) informed)
      (quotes : Runs (agent.quote nonce pcrs banks) informed (.ok response) quoted)
      (certifies : Runs agent.aik quoted (.ok aikCertificate) after) :
      Interview agent nonce pcrs banks before [.hostInfo, .quote nonce pcrs banks, .aik]
        (.ok ⟨hostInfo, response, aikCertificate⟩) after

theorem runs_answers_iff {before after : σ} {outcome : Except Agent.Error Answers} :
    Runs (answers agent nonce pcrs banks) before outcome after ↔
      ∃ asked, Interview agent nonce pcrs banks before asked outcome after := by
  constructor
  · intro run
    rcases Runs.bind_iff.mp run with ⟨failure, failed, rfl⟩ | ⟨hostInfo, informed, informs, run⟩
    · exact ⟨_, .withoutHostInfo failed⟩
    rcases Runs.bind_iff.mp run with ⟨failure, failed, rfl⟩ | ⟨response, quoted, quotes, run⟩
    · exact ⟨_, .withoutQuote informs failed⟩
    rcases Runs.bind_iff.mp run with ⟨failure, failed, rfl⟩ | ⟨aikCertificate, _, certifies, run⟩
    · exact ⟨_, .withoutAik informs quotes failed⟩
    rcases Runs.pure_iff.mp run with ⟨rfl, rfl⟩
    exact ⟨_, .complete informs quotes certifies⟩
  · intro interviewed
    rcases interviewed with ⟨asked, interview⟩
    cases interview with
    | withoutHostInfo failed => exact Runs.bind_iff.mpr (.inl ⟨_, failed, rfl⟩)
    | withoutQuote informs failed =>
        apply Runs.bind informs
        exact Runs.bind_iff.mpr (.inl ⟨_, failed, rfl⟩)
    | withoutAik informs quotes failed =>
        apply Runs.bind informs
        apply Runs.bind quotes
        exact Runs.bind_iff.mpr (.inl ⟨_, failed, rfl⟩)
    | complete informs quotes certifies =>
        apply Runs.bind informs
        apply Runs.bind quotes
        apply Runs.bind certifies
        exact Runs.pure_iff.mpr ⟨rfl, rfl⟩

/-- The list that is kept is what was asked, and keeping it changes nothing else. -/
theorem Interview.of_noting {before after : σ × List Agent.Action} {asked : List Agent.Action}
    {outcome : Except Agent.Error Answers}
    (interview : Interview agent.noting nonce pcrs banks before asked outcome after) :
    Interview agent nonce pcrs banks before.1 asked outcome after.1 ∧
      after.2 = before.2 ++ asked := by
  cases interview with
  | withoutHostInfo failed =>
      rcases Agent.runs_noting_iff.mp failed with ⟨failed, first⟩
      exact ⟨.withoutHostInfo failed, first⟩
  | withoutQuote informs failed =>
      rcases Agent.runs_noting_iff.mp informs with ⟨informs, first⟩
      rcases Agent.runs_noting_iff.mp failed with ⟨failed, second⟩
      exact ⟨.withoutQuote informs failed, by simp [first, second]⟩
  | withoutAik informs quotes failed =>
      rcases Agent.runs_noting_iff.mp informs with ⟨informs, first⟩
      rcases Agent.runs_noting_iff.mp quotes with ⟨quotes, second⟩
      rcases Agent.runs_noting_iff.mp failed with ⟨failed, third⟩
      exact ⟨.withoutAik informs quotes failed, by simp [first, second, third]⟩
  | complete informs quotes certifies =>
      rcases Agent.runs_noting_iff.mp informs with ⟨informs, first⟩
      rcases Agent.runs_noting_iff.mp quotes with ⟨quotes, second⟩
      rcases Agent.runs_noting_iff.mp certifies with ⟨certifies, third⟩
      exact ⟨.complete informs quotes certifies, by simp [first, second, third]⟩

theorem Interview.unique {before left right : σ} {asked others : List Agent.Action}
    {outcome otherOutcome : Except Agent.Error Answers}
    (interview : Interview agent nonce pcrs banks before asked outcome left)
    (other : Interview agent nonce pcrs banks before others otherOutcome right) :
    outcome = otherOutcome :=
  (Runs.unique (runs_answers_iff.mpr ⟨_, interview⟩) (runs_answers_iff.mpr ⟨_, other⟩)).1

/-- How the list that is kept tells of the run. -/
theorem interview_of_runs {bytes : Bytes} (decoded : Base64.decode? nonce = some bytes)
    {before : σ} {after : σ × List Agent.Action} {result : Except Error HostManifest}
    (run : Runs (manifest agent.noting nonce pcrs banks) (before, []) result after) :
    (∃ failure, Interview agent nonce pcrs banks before after.2 (.error failure) after.1 ∧
      result = .error (Error.ofAgent .getHostManifest failure)) ∨
    ∃ asked answers middle offered,
      Interview agent nonce pcrs banks before asked (.ok answers) middle ∧
        Runs agent.bindingKeyCertificate middle offered after.1 ∧
        after.2 = asked ++ [.bindingKeyCertificate] ∧
        result = answers.manifest bytes offered.toOption := by
  rcases (runs_manifest_iff decoded).mp run with
    ⟨failure, failed, rfl⟩ | ⟨answers, middle, offered, succeeded, offers, rfl⟩
  · rcases runs_answers_iff.mp failed with ⟨asked, interview⟩
    rcases interview.of_noting with ⟨interview, same⟩
    rw [List.nil_append] at same
    exact .inl ⟨failure, same ▸ interview, rfl⟩
  · rcases runs_answers_iff.mp succeeded with ⟨asked, interview⟩
    rcases interview.of_noting with ⟨interview, same⟩
    rcases Agent.runs_noting_iff.mp offers with ⟨offers, last⟩
    rw [List.nil_append] at same
    exact .inr ⟨asked, answers, middle.1, offered, interview, offers, by rw [last, same], rfl⟩

end TrustAgent

end Connector

end HostAttestation
