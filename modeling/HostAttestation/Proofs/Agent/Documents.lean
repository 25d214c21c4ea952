import HostAttestation.Agent.Message
import HostAttestation.Agent.SoftwareManifest
import HostAttestation.Proofs.Manifest.RoundTrip

/-! # Messages of the agent that are written

What is written for a request, an answer, a software manifest or a measurement is read as what it
was, whichever kinds of entries there are. The timestamp and the error code of an answer have to
fit into their fields. -/

namespace HostAttestation

namespace Agent

open Json (Returns)
open Json.Fields (Restores)

/-! ## Requests and answers -/

theorem QuoteRequest.returns_read (request : QuoteRequest) :
    Returns (QuoteRequest.read request.toJson.toSource) True request := by
  have pcrs := Json.Reader.returns_list request.pcrs fun index _ => index.returns_read
  have restores : Restores fields _ _ _ request :=
    (Restores.required "nonce" (Json.Reader.returns_base64 request.nonce)).map mk
      |>.seq (.required "pcrs" pcrs)
      |>.seq (.required "pcrbanks" (PcrBank.returns_list request.banks))
  exact (restores.read (by decide)).congr (by simp)

theorem TcbMeasurements.returns_read (tcb : TcbMeasurements) :
    Returns (TcbMeasurements.read tcb.toJson.toSource) True tcb := by
  have restores : Restores fields _ _ _ tcb :=
    (Restores.defaulted "tcbMeasurements" (Json.Reader.returns_texts tcb.measurements) []).map mk
  exact restores.read (by decide)

/-- The timestamp and the error code are numbers of their fields. -/
def QuoteResponse.InRange (response : QuoteResponse) : Prop :=
  Json.IsSigned 63 response.timestamp ∧ Json.IsSigned 31 response.errorCode

theorem QuoteResponse.returns_read (response : QuoteResponse) :
    Returns (QuoteResponse.read response.toJson.toSource) response.InRange response := by
  have restores : Restores fields _ _ _ response :=
    (Restores.defaulted "timestamp" (Json.Reader.returns_signed 63 response.timestamp) 0).map mk
      |>.seq (.text "clientIp" response.clientAddress)
      |>.seq (.defaulted "errorCode" (Json.Reader.returns_signed 31 response.errorCode) 0)
      |>.seq (.text "errorMessage" response.errorMessage)
      |>.seq (.defaulted "quote" (Json.Reader.returns_base64 response.quote) [])
      |>.seq (.optional "eventLog" Json.Reader.returns_text nofun response.eventLog)
      |>.seq (.defaulted "tcbMeasurements" response.tcbMeasurements.returns_read {})
      |>.seq (.defaulted "selectedPcrBanks" (PcrBank.returns_list response.selectedBanks) [])
      |>.seq (.flag "isTagProvisioned" response.tagProvisioned)
      |>.seq (.optional "assetTag" Json.Reader.returns_text nofun response.assetTag)
  refine ((restores.of_eq ?_).read (by decide)).congr (by simp [InRange])
  simp only [List.append_assoc, List.cons_append, List.nil_append]

theorem TagRequest.returns_read (request : TagRequest) :
    Returns (TagRequest.read request.toJson.toSource) True request := by
  have restores : Restores fields _ _ _ request :=
    (Restores.required "tag" (Json.Reader.returns_base64 request.tag)).map mk
      |>.seq (.required "hardware_uuid" (Json.Reader.returns_text request.hardwareUuid))
  exact (restores.read (by decide)).congr (by simp)

/-! ## Software manifests -/

namespace ManifestEntry

theorem Kind.parse?_name (kind : Kind) : parse? kind.name = some kind := by
  cases kind <;> decide

/-- The digest of a measured entry has a key of its own. -/
theorem exists_restores (entry : ManifestEntry) :
    ∃ keys, tagged.Restores keys entry.members True entry ∧ "value" ∉ kindKey :: keys := by
  cases entry with
  | directory path included excluded filterType =>
      have restores : Restores (fields .directory) _ _ _ _ :=
        (Restores.required "path" (Json.Reader.returns_text path)).map directory
          |>.seq (.optional "include" Json.Reader.returns_text nofun included)
          |>.seq (.optional "exclude" Json.Reader.returns_text nofun excluded)
          |>.seq (.optional "filter_type" Json.Reader.returns_text nofun filterType)
      exact ⟨_, .intro (Kind.parse?_name .directory) (restores.congr (by simp)) (by decide),
        by decide⟩
  | file path searchType =>
      have restores : Restores (fields .file) _ _ _ _ :=
        (Restores.required "path" (Json.Reader.returns_text path)).map file
          |>.seq (.optional "search_type" Json.Reader.returns_text nofun searchType)
      exact ⟨_, .intro (Kind.parse?_name .file) (restores.congr (by simp)) (by decide),
        by decide⟩
  | symlink path searchType =>
      have restores : Restores (fields .symlink) _ _ _ _ :=
        (Restores.required "path" (Json.Reader.returns_text path)).map symlink
          |>.seq (.optional "search_type" Json.Reader.returns_text nofun searchType)
      exact ⟨_, .intro (Kind.parse?_name .symlink) (restores.congr (by simp)) (by decide),
        by decide⟩

theorem returns_read (entry : ManifestEntry) :
    Returns (ManifestEntry.read entry.toJson.toSource) True entry := by
  rcases entry.exists_restores with ⟨keys, restores, -⟩
  exact restores.read

end ManifestEntry

theorem SoftwareManifest.returns_read (manifest : SoftwareManifest) :
    Returns (SoftwareManifest.read manifest.toJson.toSource) True manifest := by
  have entries := Json.Reader.returns_list manifest.entries fun entry _ => entry.returns_read
  have restores : Restores fields _ _ _ manifest :=
    (Restores.required "label" (Json.Reader.returns_text manifest.label)).map mk
      |>.seq (.required "uuid" (Json.Reader.returns_text manifest.uuid))
      |>.seq (.defaulted "digestAlg" (Json.Reader.returns_text manifest.digestAlgorithm) _)
      |>.seq (.defaulted "entries" entries [])
  exact (restores.read (by decide)).congr (by simp)

/-! ## Measurements -/

theorem MeasuredEntry.returns_read (measured : MeasuredEntry) :
    Returns (MeasuredEntry.read measured.toJson.toSource) True measured := by
  rcases measured.entry.exists_restores with ⟨keys, entryRestores, apart⟩
  have restores : Restores fields _ _ _ _ :=
    (Restores.required "value" (Json.Reader.returns_text measured.digest)).map _
  have unknown : ∀ member ∈ measured.entry.members ++ [], member.1 ∉ ["value"] := by
    intro member listed named
    rw [List.append_nil] at listed
    rw [List.mem_singleton] at named
    exact apart (named ▸ entryRestores.listed member listed)
  have inside := entryRestores.readInside
  rw [← List.append_nil measured.entry.members] at inside
  have returned := restores.readWith (by decide) unknown inside
  rw [List.append_nil] at returned
  exact returned.congr (by simp)

theorem Measurement.returns_read (measurement : Measurement) :
    Returns (Measurement.read measurement.toJson.toSource) True measurement := by
  have entries := Json.Reader.returns_list measurement.entries fun entry _ => entry.returns_read
  have restores : Restores fields _ _ _ measurement :=
    (Restores.required "label" (Json.Reader.returns_text measurement.label)).map mk
      |>.seq (.required "uuid" (Json.Reader.returns_text measurement.uuid))
      |>.seq (.required "digestAlg" (Json.Reader.returns_text measurement.digestAlgorithm))
      |>.seq (.defaulted "entries" entries [])
      |>.seq (.required "cumulativeHash" (Json.Reader.returns_text measurement.cumulativeHash))
  exact (restores.read (by decide)).congr (by simp)

end Agent

end HostAttestation
