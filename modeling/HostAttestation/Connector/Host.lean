import HostAttestation.Agent.Client
import HostAttestation.Connector.Error

/-! # Host connectors

The operations that the connector of every vendor offers. A request for a manifest names the
registers and the banks it wants, or none to have all that the platform reports; a manifest is
given out only if its event logs replay to the reported values. -/

namespace HostAttestation

namespace Connector

abbrev Call (σ : Type) :=
  ExceptT Error (StateM σ)

structure Host (σ : Type) where
  details : Call σ HostInfo
  manifest : (nonce : String) → List PcrIndex → List PcrBank → Call σ HostManifest
  deployAssetTag : (hardwareUuid tag : String) → Call σ Unit
  deployManifest : Agent.SoftwareManifest → Call σ Unit
  measure : Agent.SoftwareManifest → Call σ Agent.Measurement

/-- Whether an item was asked for. -/
def isSelected [DecidableEq α] (selection : List α) (item : α) : Bool :=
  selection.isEmpty || selection.contains item

/-- A call to a trust agent, as a step of an operation of the connector. -/
def ask (operation : Operation) (call : Agent.Call σ α) : Call σ α :=
  ExceptT.adapt (Error.ofAgent operation) call

/-- A call to a trust agent whose failure does not matter. -/
def askOptionally (call : Agent.Call σ α) : Call σ (Option α) :=
  ExceptT.mk do
    match ← call.run with
    | .ok value => pure (.ok (some value))
    | .error _ => pure (.ok none)

end Connector

end HostAttestation
