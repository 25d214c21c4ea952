import HostAttestation.Connector.Host
import HostAttestation.Quote.Basic

/-! # Hosts that run a trust agent

The agent's quote answers the request if it names the nonce and attests the values that come with
it. The event logs of the registers it quotes must replay to their values; other event logs are
ignored. -/

namespace HostAttestation

namespace Connector

namespace TrustAgent

/-- The list of entries, which may be missing or blank. -/
def eventLog (log : Option String) : Except (List Cause) (List EventLogEntry) :=
  match log.map Text.trim with
  | none => .ok []
  | some "" => .ok []
  | some text =>
      match Base64.decode? text with
      | none => .error [.stated "event log is not valid base64", .unstated]
      | some bytes =>
          match (Json.parse bytes).read (Json.Reader.list EventLogEntry.read) with
          | .ok entries => .ok entries
          | .error fault =>
              .error [.stated "event log is not a list of entries", Cause.ofFault fault]

/-- The digest of the provisioned tag. -/
def assetTagDigest (response : Agent.QuoteResponse) : Except (List Cause) (Option String) :=
  match response.tagProvisioned, response.assetTag with
  | true, some tag =>
      match Base64.decode? tag with
      | some bytes => .ok (some (Hex.encode (HashAlgorithm.sha384.digest bytes)))
      | none => .error [.stated "asset tag is not valid base64", .unstated]
  | _, _ => .ok none

def manifestError (failure : Failure) (causes : List Cause) : Error :=
  .failed failure .getHostManifest causes

def quoteCauses (fault : QuoteFault) : List Cause :=
  .stated fault.message :: (fault.cause?.map Cause.violation).toList

/-- Gives a step that fails its place among the kinds of failures. -/
def step (failure : Failure) (causes : ε → List Cause) (result : Except ε α) : Except Error α :=
  result.mapError fun fault => manifestError failure (causes fault)

/-- Manifest and digest of a quote that answers the nonce. -/
def pcrManifest (nonce : Bytes) (response : Agent.QuoteResponse) :
    Except Error (PcrManifest × String) := do
  let quote ← step .decode (fun fault => .stated "parse TPM quote" :: quoteCauses fault)
    (TpmQuote.parse response.quote)
  step .validation quoteCauses (quote.verifyNonce nonce)
  let digest ← step .validation quoteCauses quote.verifyPcrDigest
  let entries ← step .decode id (eventLog response.eventLog)
  let quoted := quote.values.map PcrValue.pcr
  let logs := EventLogMap.ofEntries (entries.filter fun entry => quoted.contains entry.pcr)
  let manifest ← step .validation (fun violation => [.violation violation])
    (PcrManifest.ofValues quote.values logs)
  step .validation (fun violation => [.violation violation]) manifest.verifyEventLogs
  pure (manifest, Hex.encode digest)

/-- Asks the agent in a fixed order. Only the certificate of the binding key may be missing. -/
def manifest (agent : Agent.Client σ) (nonce : String) (pcrs : List PcrIndex)
    (banks : List PcrBank) : Call σ HostManifest := do
  match Base64.decode? nonce with
  | none =>
      throw (manifestError .invalidArgument [.stated "nonce is not valid base64", .unstated])
  | some nonceBytes =>
      let hostInfo ← ask .getHostManifest agent.hostInfo
      let response ← ask .getHostManifest (agent.quote nonce pcrs banks)
      let aikCertificate ← ask .getHostManifest agent.aik
      let bindingKeyCertificate ← askOptionally agent.bindingKeyCertificate
      let (pcrManifest, quoteDigest) ← liftExcept (pcrManifest nonceBytes response)
      let assetTagDigest ← liftExcept (step .decode id (assetTagDigest response))
      pure
        { hostInfo := hostInfo
          pcrManifest := pcrManifest
          quoteDigest := quoteDigest
          aikCertificate := some aikCertificate
          bindingKeyCertificate := bindingKeyCertificate
          assetTagDigest := assetTagDigest
          measurementXmls := response.tcbMeasurements.measurements }

def host (agent : Agent.Client σ) : Host σ where
  details := ask .getHostDetails agent.hostInfo
  manifest := manifest agent
  deployAssetTag hardwareUuid tag :=
    ask (.agent .deployAssetTag) (agent.deployAssetTag hardwareUuid tag)
  deployManifest software :=
    ask (.agent .deploySoftwareManifest) (agent.deployManifest software)
  measure software := ask (.agent .getMeasurementFromManifest) (agent.measure software)

end TrustAgent

end Connector

end HostAttestation
