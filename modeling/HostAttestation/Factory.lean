import HostAttestation.Agent.Address
import HostAttestation.Config.Settings
import HostAttestation.Connection
import HostAttestation.Connector.Hypervisor
import HostAttestation.Connector.TrustAgent
import HostAttestation.Vcenter.Client

/-! # From connection strings to connectors

A plan is all that is needed to talk to a host. Whatever keeps a plan from being made is a fault
of the configuration. -/

namespace HostAttestation

inductive ConnectorPlan
  | agent (endpoint : Agent.Endpoint)
  | vcenter (client : Vcenter.Client) (host : String)
  deriving DecidableEq, Repr

namespace ConnectorPlan

open Connector (Error)

/-- Credentials of the connection come before those of the settings. They need a service that
exchanges them; without credentials a fixed token may be configured. -/
def authentication (connection : Connection) (trust : TrustMaterial) (settings : AgentSettings) :
    Except Error Agent.Authentication :=
  match connection.username <|> settings.username, connection.password <|> settings.password with
  | some username, some password =>
      match trust.serviceUrl with
      | some url => .ok (.service url username password)
      | none => .error (.configuration .noServiceUrl)
  | none, none =>
      match settings.bearerToken with
      | some token => .ok (.bearer token)
      | none => .ok .none
  | _, _ => .error (.configuration .incompleteCredentials)

def ofAgent (connection : Connection) (trust : TrustMaterial) (settings : Settings) :
    Except Error ConnectorPlan := do
  let authentication ← authentication connection trust settings.agent
  let endpoint ←
    (Agent.Endpoint.ofAddress connection.url.text
      { authentication := authentication
        http := settings.agent.http
        bus := settings.bus
        certificates := trust.certificates }).mapError fun error => .configuration (.agent error)
  pure (.agent endpoint)

/-- The interface of a vCenter lies at the root, whatever path the address has. -/
def ofVcenter (connection : Connection) (trust : TrustMaterial) : Except Error ConnectorPlan := do
  match connection.host, connection.username, connection.password with
  | some host, some username, some password =>
      let client ← Vcenter.Client.trusting
        ⟨connection.url.atRoot.withoutQuery, username, password⟩ trust.certificates
      pure (.vcenter client host)
  | _, _, _ => throw (.configuration .incompleteLogin)

def ofConnection (connection : Connection) (trust : TrustMaterial) (settings : Settings) :
    Except Error ConnectorPlan :=
  match connection.vendor with
  | .intel => ofAgent connection trust settings
  | .vmware => ofVcenter connection trust

def ofText (text : String) (trust : TrustMaterial) (settings : Settings) :
    Except Error ConnectorPlan := do
  let connection ← Connection.parse text
  ofConnection connection trust settings

end ConnectorPlan

end HostAttestation
