import HostAttestation.Vcenter.Api
import HostAttestation.Vcenter.Evidence

/-! # Hosts attested through a vCenter

A vCenter gives information and reports about a host but deploys and measures nothing. -/

namespace HostAttestation

namespace Connector

namespace Hypervisor

def manifest (api : Vcenter.Api σ) (name : String) (pcrs : List PcrIndex)
    (banks : List PcrBank) : Call σ HostManifest := do
  let report ← api.attestationReport name
  let pcrManifest ← liftExcept (report.pcrManifest pcrs banks)
  let hostInfo ← api.hostInfo name
  pure
    { hostInfo := hostInfo
      pcrManifest := pcrManifest
      quoteDigest := Hex.encode (pcrManifest.digest .sha256)
      aikCertificate := none
      bindingKeyCertificate := none
      assetTagDigest := none
      measurementXmls := [] }

def unsupported (operation : Agent.Operation) : Call σ α :=
  throw (.unsupported (.agent operation) .vmware)

/-- The host of a name. -/
def host (api : Vcenter.Api σ) (name : String) : Host σ where
  details := api.hostInfo name
  manifest _ := manifest api name
  deployAssetTag _ _ := unsupported .deployAssetTag
  deployManifest _ := unsupported .deploySoftwareManifest
  measure _ := unsupported .getMeasurementFromManifest

end Hypervisor

end Connector

end HostAttestation
