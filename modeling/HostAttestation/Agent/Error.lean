import HostAttestation.Agent.Operation
import HostAttestation.Agent.SoftwareManifest
import HostAttestation.Cause
import HostAttestation.Text.Duration

/-! # Errors of a trust agent client

Whose fault an error is decides its kind: the caller's argument, the configuration, the way to
the agent, the agent itself, or the form of its reply. All but the first two name the operation. -/

namespace HostAttestation

namespace Agent

inductive ArgumentFault
  | nonce
  | assetTag
  | hardwareUuid (uuid : String)
  | manifest (fault : ManifestFault)
  | other (text : String)
  deriving DecidableEq, Repr

inductive ConfigurationFault
  | invalidAddress (address : String)
  | noHost (address : String)
  | notBase (address : String)
  | unusableBase (address : String)
  | certificates
  | subjectToken (role token : String)
  | noServer
  | invalidServer (address : String)
  | credentialsFile (path : String)
  | other (text : String)
  deriving DecidableEq, Repr

inductive Error
  | invalidArgument (fault : ArgumentFault)
  | configuration (fault : ConfigurationFault)
  | transport (operation : Operation) (causes : List Cause)
  | reported (operation : Operation) (code : Int) (report : String)
  | timeout (operation : Operation) (limit : Duration) (causes : List Cause)
  | decode (operation : Operation) (causes : List Cause)
  deriving DecidableEq, Repr

def ManifestFault.message : ManifestFault → String
  | .blankLabel => "manifest label is empty"
  | .invalidUuid uuid => s!"manifest uuid `{uuid}`: " ++ Cause.elsewhere

def ArgumentFault.message : ArgumentFault → String
  | .nonce => "nonce is not valid base64: " ++ Cause.elsewhere
  | .assetTag => "asset tag is not valid base64: " ++ Cause.elsewhere
  | .hardwareUuid uuid => s!"hardware uuid `{uuid}`: " ++ Cause.elsewhere
  | .manifest fault => fault.message
  | .other text => text

def ConfigurationFault.message : ConfigurationFault → String
  | .invalidAddress address => s!"trust agent address `{address}`: " ++ Cause.elsewhere
  | .noHost address => s!"`{address}` does not name a host"
  | .notBase address => s!"`{address}` cannot be a base URL"
  | .unusableBase address => s!"`{address}` cannot be used as a base URL"
  | .certificates => "build trust agent HTTP client: " ++ Cause.elsewhere
  | .subjectToken role token => s!"`{token}` is not a valid NATS {role}"
  | .noServer => "no NATS server configured"
  | .invalidServer address => s!"NATS server `{address}`: " ++ Cause.elsewhere
  | .credentialsFile path => s!"read NATS credentials file `{path}`: " ++ Cause.elsewhere
  | .other text => text

namespace Error

def message : Error → String
  | .invalidArgument fault => "invalid argument: " ++ fault.message
  | .configuration fault => "trust agent client configuration error: " ++ fault.message
  | .transport operation _ => operation.name ++ ": request to the trust agent failed"
  | .reported operation code report =>
      operation.name ++ s!": trust agent reported error {code}: {report}"
  | .timeout operation limit _ =>
      operation.name ++ ": no reply from the trust agent within " ++ limit.text
  | .decode operation _ => operation.name ++ ": malformed reply from the trust agent"

def causes : Error → List Cause
  | .transport _ causes => causes
  | .timeout _ _ causes => causes
  | .decode _ causes => causes
  | _ => []

/-- A reply that is not the document that it should be. -/
def malformed (operation : Operation) (fault : Json.Fault Violation) : Error :=
  .decode operation [Cause.ofFault fault]

end Error

end Agent

end HostAttestation
