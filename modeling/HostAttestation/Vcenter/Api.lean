import HostAttestation.Connector.Host
import HostAttestation.Vcenter.Inventory
import HostAttestation.Vcenter.Report

/-! # What a connector needs from a vCenter -/

namespace HostAttestation

namespace Vcenter

open Connector (Call)

structure Api (σ : Type) where
  hostInfo : (host : String) → Call σ HostInfo
  attestationReport : (host : String) → Call σ AttestationReport
  clusterHosts : (cluster : String) → Call σ (List HostReference)

/-- The operations by which errors name a call. -/
def hostInfoOperation : Connector.Operation :=
  .agent .getHostInfo

/-! ## Prepared answers

A vCenter that answers from memory counts its calls, also those that fail. -/

structure Canned where
  hostInfo : HostInfo := {}
  report : AttestationReport
  hosts : List HostReference := []
  failure? : Connector.Operation → Option Connector.Error := fun _ => none

structure Canned.Calls where
  hostInfo : Nat := 0
  report : Nat := 0
  cluster : Nat := 0
  deriving DecidableEq, Repr

namespace Canned

def answer (canned : Canned) (operation : Connector.Operation) (value : α) : Call Calls α :=
  match canned.failure? operation with
  | some error => throw error
  | none => pure value

def api (canned : Canned) : Api Calls where
  hostInfo host := do
    modify fun calls => { calls with hostInfo := calls.hostInfo + 1 }
    canned.answer hostInfoOperation { canned.hostInfo with hostName := host }
  attestationReport _ := do
    modify fun calls => { calls with report := calls.report + 1 }
    canned.answer .getAttestationReport canned.report
  clusterHosts _ := do
    modify fun calls => { calls with cluster := calls.cluster + 1 }
    canned.answer .getClusterHosts canned.hosts

end Canned

end Vcenter

end HostAttestation
