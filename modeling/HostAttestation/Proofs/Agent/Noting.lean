import HostAttestation.Proofs.Agent.Action

/-! # Clients that note what they are asked for

Which calls a caller makes, and in which order, shows in a list that is kept beside the state of the
client. The calls themselves go as they would without the list. -/

namespace HostAttestation

namespace Agent

variable {σ α : Type}

/-- Puts what the call is made for at the end of a list. -/
def noting (action : Action) (call : Call σ α) : Call (σ × List Action) α :=
  ExceptT.mk fun state =>
    let (result, after) := runFrom call state.1
    (result, (after, state.2 ++ [action]))

/-- The same client with a list of what it was asked for. -/
def Client.noting (client : Client σ) : Client (σ × List Action) where
  hostInfo := Agent.noting .hostInfo client.hostInfo
  quote nonce pcrs banks :=
    Agent.noting (.quote nonce pcrs banks) (client.quote nonce pcrs banks)
  aik := Agent.noting .aik client.aik
  bindingKeyCertificate := Agent.noting .bindingKeyCertificate client.bindingKeyCertificate
  deployAssetTag hardwareUuid tag :=
    Agent.noting (.deployAssetTag hardwareUuid tag) (client.deployAssetTag hardwareUuid tag)
  deployManifest manifest :=
    Agent.noting (.deployManifest manifest) (client.deployManifest manifest)
  measure manifest := Agent.noting (.measure manifest) (client.measure manifest)
  baseUrl := client.baseUrl

theorem runs_noting_iff {action : Action} {call : Call σ α} {before after : σ × List Action}
    {result : Except Error α} :
    Runs (noting action call) before result after ↔
      Runs call before.1 result after.1 ∧ after.2 = before.2 ++ [action] := by
  change ((runFrom call before.1).1, ((runFrom call before.1).2, before.2 ++ [action])) =
    (result, after) ↔ runFrom call before.1 = (result, after.1) ∧ _
  rcases after with ⟨after, asked⟩
  rcases runFrom call before.1 with ⟨outcome, left⟩
  simp only [Prod.mk.injEq]
  constructor
  · intro same
    exact ⟨⟨same.1, same.2.1⟩, same.2.2.symm⟩
  · intro same
    exact ⟨same.1.1, same.1.2, same.2.symm⟩

end Agent

end HostAttestation
