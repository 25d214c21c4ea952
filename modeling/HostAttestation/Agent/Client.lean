import HostAttestation.Agent.Message
import HostAttestation.Url.Parser

/-! # Trust agent clients

The operations that every client offers, however it reaches its agent. A call may change the state
that client and agent share whether it succeeds or fails. -/

namespace HostAttestation

namespace Agent

abbrev Call (σ : Type) :=
  ExceptT Error (StateM σ)

structure Client (σ : Type) where
  hostInfo : Call σ HostInfo
  quote : (nonce : String) → List PcrIndex → List PcrBank → Call σ QuoteResponse
  /-- The certificate of the key that signs quotes. -/
  aik : Call σ Bytes
  bindingKeyCertificate : Call σ Bytes
  deployAssetTag : (hardwareUuid tag : String) → Call σ Unit
  deployManifest : SoftwareManifest → Call σ Unit
  measure : SoftwareManifest → Call σ Measurement
  /-- The address of the agent, if it has one. -/
  baseUrl : Option Url

/-- A client some of whose operations fail before the agent is asked. -/
def Client.failing (failure? : Operation → Option Error) (client : Client σ) : Client σ :=
  let guarded {α : Type} (operation : Operation) (call : Call σ α) : Call σ α :=
    match failure? operation with
    | some error => throw error
    | none => call
  { hostInfo := guarded .getHostInfo client.hostInfo
    quote := fun nonce pcrs banks => guarded .getTpmQuote (client.quote nonce pcrs banks)
    aik := guarded .getAik client.aik
    bindingKeyCertificate := guarded .getBindingKeyCertificate client.bindingKeyCertificate
    deployAssetTag := fun hardwareUuid tag =>
      guarded .deployAssetTag (client.deployAssetTag hardwareUuid tag)
    deployManifest := fun manifest =>
      guarded .deploySoftwareManifest (client.deployManifest manifest)
    measure := fun manifest => guarded .getMeasurementFromManifest (client.measure manifest)
    baseUrl := client.baseUrl }

/-! ## Clients of distant agents

They differ only in the way that a payload takes to the agent and the answer takes back. -/

abbrev Transport (σ : Type) :=
  Operation → (payload : Option Json) → Call σ Bytes

def Client.ofTransport (ask : Transport σ) (baseUrl : Option Url) : Client σ where
  hostInfo := do
    let body ← ask .getHostInfo none
    liftExcept (decodeReply .getHostInfo HostInfo.read body)
  quote nonce pcrs banks := do
    let request ← liftExcept (QuoteRequest.ofNonce nonce pcrs banks)
    let body ← ask .getTpmQuote (some request.toJson)
    let response ← liftExcept (decodeReply .getTpmQuote QuoteResponse.read body)
    liftExcept response.accepted
  aik := do
    let body ← ask .getAik none
    liftExcept (certificateOfReply .getAik body)
  bindingKeyCertificate := do
    let body ← ask .getBindingKeyCertificate none
    liftExcept (certificateOfReply .getBindingKeyCertificate body)
  deployAssetTag hardwareUuid tag := do
    let request ← liftExcept (TagRequest.ofTexts hardwareUuid tag)
    let _ ← ask .deployAssetTag (some request.toJson)
  deployManifest manifest := do
    let manifest ← liftExcept manifest.check
    let _ ← ask .deploySoftwareManifest (some manifest.toJson)
  measure manifest := do
    let manifest ← liftExcept manifest.check
    let body ← ask .getMeasurementFromManifest (some manifest.toJson)
    liftExcept (decodeReply .getMeasurementFromManifest Measurement.read body)
  baseUrl := baseUrl

/-! ## Agents that answer from memory

They give prepared answers and keep what they were sent. A certificate or a measurement that was
not prepared is not available. -/

structure Canned where
  hostInfo : HostInfo := {}
  quote : QuoteResponse := {}
  aik : Option Bytes := none
  bindingKeyCertificate : Option Bytes := none
  measurement : Option Measurement := none

structure Canned.Log where
  quoteRequests : List QuoteRequest := []
  tags : List TagRequest := []
  manifests : List SoftwareManifest := []

namespace Canned

def available (operation : Operation) : Option α → Call Log α
  | some value => pure value
  | none => throw (.transport operation [.stated "not available"])

def client (agent : Canned) : Client Log where
  hostInfo := pure agent.hostInfo
  quote nonce pcrs banks := do
    let request ← liftExcept (QuoteRequest.ofNonce nonce pcrs banks)
    modify fun log => { log with quoteRequests := log.quoteRequests ++ [request] }
    liftExcept agent.quote.accepted
  aik := available .getAik agent.aik
  bindingKeyCertificate := available .getBindingKeyCertificate agent.bindingKeyCertificate
  deployAssetTag hardwareUuid tag := do
    let request ← liftExcept (TagRequest.ofTexts hardwareUuid tag)
    modify fun log => { log with tags := log.tags ++ [request] }
  deployManifest manifest := do
    let manifest ← liftExcept manifest.check
    modify fun log => { log with manifests := log.manifests ++ [manifest] }
  measure manifest := do
    let _ ← liftExcept manifest.check
    available .getMeasurementFromManifest agent.measurement
  baseUrl := Url.parse? "https://mock-trust-agent:1443/v2"

end Canned

end Agent

end HostAttestation
