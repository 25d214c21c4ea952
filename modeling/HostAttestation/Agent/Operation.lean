/-! # Operations of a trust agent

Every operation has a name, by which errors call it, a path below the address of an agent that is
reached by requests, and the last part of the subject on which an agent listens on the bus. Main
statements: neither paths nor subjects confuse two operations. -/

namespace HostAttestation

namespace Agent

inductive Operation
  | getHostInfo
  | getTpmQuote
  | getAik
  | getBindingKeyCertificate
  | deployAssetTag
  | deploySoftwareManifest
  | getMeasurementFromManifest
  /-- The exchange of credentials for a token. -/
  | authenticate
  deriving DecidableEq, Repr

namespace Operation

def all : List Operation :=
  [.getHostInfo, .getTpmQuote, .getAik, .getBindingKeyCertificate, .deployAssetTag,
    .deploySoftwareManifest, .getMeasurementFromManifest, .authenticate]

def name : Operation → String
  | .getHostInfo => "get_host_info"
  | .getTpmQuote => "get_tpm_quote"
  | .getAik => "get_aik"
  | .getBindingKeyCertificate => "get_binding_key_certificate"
  | .deployAssetTag => "deploy_asset_tag"
  | .deploySoftwareManifest => "deploy_software_manifest"
  | .getMeasurementFromManifest => "get_measurement_from_manifest"
  | .authenticate => "authenticate"

/-- The segments below the base address. -/
def path : Operation → List String
  | .getHostInfo => ["host"]
  | .getTpmQuote => ["tpm", "quote"]
  | .getAik => ["aik"]
  | .getBindingKeyCertificate => ["binding-key-certificate"]
  | .deployAssetTag => ["tag"]
  | .deploySoftwareManifest => ["deploy", "manifest"]
  | .getMeasurementFromManifest => ["host", "application-measurement"]
  | .authenticate => ["token"]

def subjectToken : Operation → String
  | .getHostInfo => "host-info-request"
  | .getTpmQuote => "quote-request"
  | .getAik => "aik-request"
  | .getBindingKeyCertificate => "binding-key-certificate-request"
  | .deployAssetTag => "deploy-asset-tag"
  | .deploySoftwareManifest => "deploy-manifest-request"
  | .getMeasurementFromManifest => "application-measurement-request"
  | .authenticate => "token-request"

theorem mem_all (operation : Operation) : operation ∈ all := by
  cases operation <;> decide

theorem path_injective {left right : Operation} (equal : left.path = right.path) :
    left = right := by
  cases left <;> cases right <;> simp_all [path]

theorem subjectToken_injective {left right : Operation}
    (equal : left.subjectToken = right.subjectToken) : left = right := by
  cases left <;> cases right <;> simp_all [subjectToken]

end Operation

end Agent

end HostAttestation
