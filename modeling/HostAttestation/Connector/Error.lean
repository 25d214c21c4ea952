import HostAttestation.Agent.Error

/-! # Errors of a connector

A connector sees to it that an error of the side it talks to keeps its kind. Main statement: an
error that a trust agent client reports can be retried exactly if it is one of the transport, of
the agent, or a timeout. -/

namespace HostAttestation

inductive Vendor
  | intel
  | vmware
  deriving DecidableEq, Repr

namespace Vendor

def all : List Vendor := [.intel, .vmware]

def name : Vendor → String
  | .intel => "intel"
  | .vmware => "vmware"

/-- The name of a vendor in the printed form of a connection. -/
def title : Vendor → String
  | .intel => "Intel"
  | .vmware => "Vmware"

/-- The tag of a vendor in letters of either case. -/
def parse? (text : String) : Option Vendor :=
  all.find? fun vendor => vendor.name.toList = text.toList.map Char.toLower

end Vendor

namespace Connector

/-- What a connector was doing. Operations that trust agents offer as well keep their names. -/
inductive Operation
  | getHostDetails
  | getHostManifest
  | getAttestationReport
  | getClusterHosts
  | agent (operation : Agent.Operation)
  deriving DecidableEq, Repr

def Operation.name : Operation → String
  | .getHostDetails => "get_host_details"
  | .getHostManifest => "get_host_manifest"
  | .getAttestationReport => "get_tpm_attestation_report"
  | .getClusterHosts => "get_cluster_hosts"
  | .agent operation => operation.name

inductive ConfigurationFault
  | unknownVendor (tag : String)
  | invalidAddress (address : String)
  | optionForm (option : String)
  | unknownOption (key : String)
  | missingHost
  | incompleteLogin
  | noServiceUrl
  | incompleteCredentials
  | serviceUrl
  | certificateDirectory
  | certificateFile (name : Bytes)
  | certificates
  | notBase (address : String)
  | unknownHost (host : String)
  | unknownCluster (cluster : String)
  /-- No client of a trust agent can be built. -/
  | agent (error : Agent.Error)
  /-- A trust agent client turned out to be misconfigured during an operation. -/
  | agentCall (operation : Operation) (error : Agent.Error)
  | other (text : String)
  deriving DecidableEq, Repr

def ConfigurationFault.message : ConfigurationFault → String
  | .unknownVendor tag => s!"unknown vendor `{tag}`"
  | .invalidAddress address => s!"connection address `{address}`: " ++ Cause.elsewhere
  | .optionForm option => s!"connection option `{option}` is not `key=value`"
  | .unknownOption key => s!"unknown connection option `{key}`"
  | .missingHost => "a vmware connection string needs the host name (`h=`)"
  | .incompleteLogin => "a vmware connection string needs `h=`, `u=` and `p=`"
  | .noServiceUrl => "trust agent credentials given without an AAS URL"
  | .incompleteCredentials => "trust agent username and password must be given together"
  | .serviceUrl => "AAS API URL: " ++ Cause.elsewhere
  | .certificateDirectory => "read CA directory " ++ Cause.elsewhere
  | .certificateFile _ => "read CA certificate " ++ Cause.elsewhere
  | .certificates => "build vCenter HTTP client: " ++ Cause.elsewhere
  | .notBase address => s!"`{address}` cannot be a base URL"
  | .unknownHost host => s!"host `{host}` is not managed by this vCenter"
  | .unknownCluster cluster => s!"cluster `{cluster}` is not known to vCenter"
  | .agent error => error.message
  | .agentCall operation error => operation.name ++ ": " ++ error.message
  | .other text => text

/-- The kinds of failure of an operation. -/
inductive Failure
  | invalidArgument
  | transport
  | timeout
  | decode
  | validation
  deriving DecidableEq, Repr

inductive Error
  | configuration (fault : ConfigurationFault)
  | failed (failure : Failure) (operation : Operation) (causes : List Cause)
  | untrusted (operation : Operation) (reason : String)
  | unsupported (operation : Operation) (vendor : Vendor)
  deriving DecidableEq, Repr

def Failure.kind : Failure → String
  | .invalidArgument => "InvalidArgument"
  | .transport => "Transport"
  | .timeout => "Timeout"
  | .decode => "Decode"
  | .validation => "Validation"

def Failure.message : Failure → String
  | .invalidArgument => "invalid argument"
  | .transport => "transport failure"
  | .timeout => "timed out"
  | .decode => "malformed payload"
  | .validation => "verification failed"

/-- Whether the same call may succeed later. -/
def Failure.isRetryable : Failure → Bool
  | .transport => true
  | .timeout => true
  | _ => false

namespace Error

def kind : Error → String
  | .configuration _ => "Configuration"
  | .failed failure _ _ => failure.kind
  | .untrusted _ _ => "Untrusted"
  | .unsupported _ _ => "Unsupported"

def message : Error → String
  | .configuration fault => "host connector configuration error: " ++ fault.message
  | .failed failure operation _ => operation.name ++ ": " ++ failure.message
  | .untrusted operation reason => operation.name ++ ": host is not trusted: " ++ reason
  | .unsupported operation vendor =>
      operation.name ++ " is not supported by the " ++ vendor.name ++ " connector"

def causes : Error → List Cause
  | .failed _ _ causes => causes
  | _ => []

def isRetryable : Error → Bool
  | .failed failure _ _ => failure.isRetryable
  | _ => false

/-- An error of a trust agent client behind an operation of the connector. What the agent itself
reports counts as a failure of the transport. -/
def ofAgent (operation : Operation) (error : Agent.Error) : Error :=
  let causes := .stated error.message :: error.causes
  match error with
  | .invalidArgument _ => .failed .invalidArgument operation causes
  | .configuration _ => .configuration (.agentCall operation error)
  | .transport _ _ => .failed .transport operation causes
  | .reported _ _ _ => .failed .transport operation causes
  | .timeout _ _ _ => .failed .timeout operation causes
  | .decode _ _ => .failed .decode operation causes

end Error

end Connector

end HostAttestation
