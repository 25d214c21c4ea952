import HostAttestation.Proofs.Agent.Documents
import HostAttestation.Vcenter.Report

/-! # Reports that are written

What is written for the values and events of a report is read as what it was, whichever kinds of
events there are, the unknown kind included. The numbers of registers have to fit into their
fields. -/

namespace HostAttestation

namespace Vcenter

open Json (Returns)
open Json.Fields (Restores)

/-! ## Events -/

namespace EventDetail

theorem Kind.ofName_name (kind : Kind) : ofName kind.name = kind := by
  cases kind <;> decide

/-- The digest of an event and its method have keys of their own. -/
theorem exists_restores (detail : EventDetail) :
    ∃ keys, tagged.Restores keys detail.members True detail ∧
      ∀ key ∈ kindKey :: keys, key ∉ ["dataHash", "dataHashMethod"] := by
  have named := congrArg some (Kind.ofName_name detail.kind)
  cases detail with
  | softwareComponent componentName vibName vibVersion vibVendor =>
      have restores : Restores (fields .softwareComponent) _ _ _ _ :=
        (Restores.required "componentName" (Json.Reader.returns_text componentName)).map
            softwareComponent
          |>.seq (.required "vibName" (Json.Reader.returns_text vibName))
          |>.seq (.required "vibVersion" (Json.Reader.returns_text vibVersion))
          |>.seq (.required "vibVendor" (Json.Reader.returns_text vibVendor))
      exact ⟨_, .intro named (restores.congr (by simp)) (by decide), by decide⟩
  | commandLine text =>
      have restores : Restores (fields .commandLine) _ _ _ _ :=
        (Restores.required "commandLine" (Json.Reader.returns_text text)).map commandLine
      exact ⟨_, .intro named restores (by decide), by decide⟩
  | bootOptions fileName =>
      have restores : Restores (fields .bootOptions) _ _ _ _ :=
        (Restores.required "optionsFileName" (Json.Reader.returns_text fileName)).map bootOptions
      exact ⟨_, .intro named restores (by decide), by decide⟩
  | bootSecurityOption option =>
      have restores : Restores (fields .bootSecurityOption) _ _ _ _ :=
        (Restores.required "bootSecurityOption" (Json.Reader.returns_text option)).map
          bootSecurityOption
      exact ⟨_, .intro named restores (by decide), by decide⟩
  | unknown => exact ⟨[], .intro named (.constant unknown) (by decide), by decide⟩

end EventDetail

theorem EventDetails.returns_read (details : EventDetails) :
    Returns (EventDetails.read details.toJson.toSource) True details := by
  rcases details.detail.exists_restores with ⟨keys, detailRestores, apart⟩
  have restores : Restores fields _ _ _ _ :=
    (Restores.required "dataHash" (Json.Reader.returns_base64 details.digest)).map mk
      |>.seq (.optional "dataHashMethod" Json.Reader.returns_text nofun details.method)
  have unknown : ∀ member ∈ [] ++ details.detail.members,
      member.1 ∉ ["dataHash", "dataHashMethod"] := fun member listed =>
    apart member.1 (detailRestores.listed member listed)
  have returned := restores.readWith (by decide) unknown detailRestores.readInside
  exact returned.congr (by simp)

/-- The number of the register fits into its field. -/
def EventRecord.InRange (record : EventRecord) : Prop :=
  Json.IsSigned 31 record.pcrIndex

theorem EventRecord.returns_read (record : EventRecord) :
    Returns (EventRecord.read record.toJson.toSource) record.InRange record := by
  have restores : Restores fields _ _ _ record :=
    (Restores.required "pcrIndex" (Json.Reader.returns_signed 31 record.pcrIndex)).map mk
      |>.seq (.required "eventDetails" record.details.returns_read)
  exact (restores.read (by decide)).congr (by simp [InRange])

/-! ## Reports -/

def DigestInfo.InRange (info : DigestInfo) : Prop :=
  Json.IsSigned 31 info.pcrNumber

theorem DigestInfo.returns_read (info : DigestInfo) :
    Returns (DigestInfo.read info.toJson.toSource) info.InRange info := by
  have restores : Restores fields _ _ _ info :=
    (Restores.required "pcrNumber" (Json.Reader.returns_signed 31 info.pcrNumber)).map mk
      |>.seq (.required "digestMethod" (Json.Reader.returns_text info.method))
      |>.seq (.required "digestValue" (Json.Reader.returns_base64 info.value))
  exact (restores.read (by decide)).congr (by simp [InRange])

def ReportContent.InRange (content : ReportContent) : Prop :=
  (∀ info ∈ content.values, info.InRange) ∧ ∀ record ∈ content.events, record.InRange

theorem ReportContent.returns_read (content : ReportContent) :
    Returns (ReportContent.read content.toJson.toSource) content.InRange content := by
  have values := Json.Reader.returns_list content.values fun info _ => info.returns_read
  have events := Json.Reader.returns_list content.events fun record _ => record.returns_read
  have restores : Restores fields _ _ _ content :=
    (Restores.defaulted "tpmPcrValues" values []).map mk |>.seq (.defaulted "tpmEvents" events [])
  exact restores.read (by decide)

end Vcenter

/-! ## All documents of the wire -/

/-- Every value is read back, its numbers being such as their fields can hold. -/
theorem read_written_of_wire :
    (∀ request : Agent.QuoteRequest,
      request.toJson.written.read Agent.QuoteRequest.read = .ok request) ∧
    (∀ response : Agent.QuoteResponse,
      response.toJson.written.read Agent.QuoteResponse.read = .ok response ↔ response.InRange) ∧
    (∀ request : Agent.TagRequest,
      request.toJson.written.read Agent.TagRequest.read = .ok request) ∧
    (∀ manifest : Agent.SoftwareManifest,
      manifest.toJson.written.read Agent.SoftwareManifest.read = .ok manifest) ∧
    (∀ measurement : Agent.Measurement,
      measurement.toJson.written.read Agent.Measurement.read = .ok measurement) ∧
    ∀ content : Vcenter.ReportContent,
      content.toJson.written.read Vcenter.ReportContent.read = .ok content ↔ content.InRange :=
  ⟨fun request => request.returns_read.written.eq_ok,
    fun response => response.returns_read.written.eq_ok_iff,
    fun request => request.returns_read.written.eq_ok,
    fun manifest => manifest.returns_read.written.eq_ok,
    fun measurement => measurement.returns_read.written.eq_ok,
    fun content => content.returns_read.written.eq_ok_iff⟩

end HostAttestation
