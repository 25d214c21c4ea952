import HostAttestation.Connector.Host
import HostAttestation.Vcenter.Report

/-! # Evidence in attestation reports

Every value and every event of a report must be sound, also those that were not asked for. An
event of an unknown kind loses its details but not its digest, because the register was extended
with it like with any other. -/

namespace HostAttestation

namespace Vcenter

open Connector (isSelected)

/-- A fault in a report: what is wrong, within the record that it was found in. -/
abbrev Checked (α : Type) := Except (List Cause) α

def causesOf (result : Except Violation α) : Checked α :=
  result.mapError fun violation => [.violation violation]

/-- Names the record in which a fault was found. -/
def within (record : String) (result : Checked α) : Checked α :=
  result.mapError fun causes => .stated record :: causes

def index (number : Int) : Checked PcrIndex :=
  if number < 0 then .error [.stated s!"negative PCR index {number}"]
  else causesOf (PcrIndex.ofInt number)

namespace EventDetail

/-- The type of an event in a canonical log. -/
def typeId : EventDetail → String
  | .softwareComponent _ _ _ _ => "vim.HostTpmSoftwareComponentEventDetails"
  | .commandLine _ => "vim.HostTpmCommandEventDetails"
  | .bootOptions _ => "vim.HostTpmOptionEventDetails"
  | .bootSecurityOption _ => "vim.HostTpmBootSecurityOptionEventDetails"
  | .unknown => "vim.HostTpmEventDetails"

def typeName : EventDetail → String
  | .softwareComponent _ _ _ _ => "HostTpmSoftwareComponentEvent"
  | .commandLine _ => "HostTpmCommandEvent"
  | .bootOptions _ => "HostTpmOptionEvent"
  | .bootSecurityOption _ => "HostTpmBootSecurityOptionEvent"
  | .unknown => "HostTpmEvent"

def tags : EventDetail → List String
  | .softwareComponent componentName vibName _ vibVendor =>
      [componentName, vibName ++ "_" ++ vibVendor]
  | .commandLine text => [text]
  | .bootOptions fileName => [fileName]
  | .bootSecurityOption option => [option]
  | .unknown => []

end EventDetail

/-- Some releases report the digest of an unextended SHA1 event with this width. -/
def legacyZeroLength : Nat := 40

def isLegacyZero (digest : Bytes) : Bool :=
  digest.length = legacyZeroLength && digest.all (· = 0)

/-- The bank of an event is the declared one, else the one that has the width of the digest. -/
def eventBank (method : Option String) (digest : Bytes) : Checked (PcrBank × Bytes) :=
  match method with
  | some method => (causesOf (PcrBank.parse method)).map fun bank => (bank, digest)
  | none =>
      let digest :=
        if isLegacyZero digest then digest.take HashAlgorithm.sha1.digestLength else digest
      match HashAlgorithm.ofDigestLength? digest.length with
      | some bank => .ok (bank, digest)
      | none => .error [.stated s!"cannot infer the bank of a {digest.length} byte digest"]

/-- The log entry of one event. -/
def EventRecord.entry (record : EventRecord) : Checked EventLogEntry := do
  let detail := record.details.detail
  let index ← index record.pcrIndex
  let (bank, measurement) ←
    within (detail.typeName ++ " extended into PCR " ++ index.name)
      (eventBank record.details.method record.details.digest)
  causesOf (EventLogEntry.ofEvents ⟨index, bank⟩
    [⟨detail.typeId, detail.typeName, detail.tags, measurement⟩])

def DigestInfo.pcrValue (info : DigestInfo) : Checked PcrValue :=
  within s!"PCR value #{info.pcrNumber}" do
    let index ← index info.pcrNumber
    let bank ← causesOf (PcrBank.parse info.method)
    causesOf (PcrValue.ofDigest ⟨index, bank⟩ info.value)

/-- Whether a register and its bank were asked for. -/
def isWanted (pcrs : List PcrIndex) (banks : List PcrBank) (pcr : PcrId) : Bool :=
  isSelected pcrs pcr.index && isSelected banks pcr.bank

def ReportContent.evidence (content : ReportContent) (pcrs : List PcrIndex)
    (banks : List PcrBank) : Checked PcrManifest := do
  let values ← content.values.mapM DigestInfo.pcrValue
  let entries ← content.events.mapM EventRecord.entry
  let logs := EventLogMap.ofEntries (entries.filter fun entry => isWanted pcrs banks entry.pcr)
  let manifest ← causesOf
    (PcrManifest.ofValues (values.filter fun value => isWanted pcrs banks value.pcr) logs)
  causesOf manifest.verifyEventLogs
  pure manifest

def ReportContent.pcrManifest (content : ReportContent) (pcrs : List PcrIndex)
    (banks : List PcrBank) : Except Connector.Error PcrManifest :=
  (content.evidence pcrs banks).mapError (.failed .validation .getHostManifest)

/-- A report that is marked as unreliable is rejected before anything else in it is looked at. -/
def AttestationReport.pcrManifest (report : AttestationReport) (pcrs : List PcrIndex)
    (banks : List PcrBank) : Except Connector.Error PcrManifest :=
  if report.logReliable then
    match report.decode with
    | .ok content => content.pcrManifest pcrs banks
    | .error fault => .error (.failed .decode .getHostManifest [Cause.ofFault fault])
  else .error (.untrusted .getHostManifest "vCenter reports the TPM event log as unreliable")

end Vcenter

end HostAttestation
