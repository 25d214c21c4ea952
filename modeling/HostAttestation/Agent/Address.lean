import HostAttestation.Agent.Bus
import HostAttestation.Agent.Http
import HostAttestation.Net.Certificate

/-! # Addresses of trust agents

The scheme of an address tells how the agent is reached: on the message bus, by the name of its
host, or by requests below a base address. A base address ends with the version of the protocol,
without a slash behind it. -/

namespace HostAttestation

namespace Agent

inductive Address
  | direct (baseUrl : Url)
  | onBus (host : String)
  deriving DecidableEq, Repr

structure HttpOptions where
  /-- The version of the protocol. -/
  version : String := "v2"
  timeoutSeconds : Nat := 30
  deriving DecidableEq, Repr

def HttpOptions.timeout (options : HttpOptions) : Duration :=
  .ofSeconds options.timeoutSeconds

namespace Address

def busScheme : String := "nats"

/-- The version is added unless the path ends with it already. -/
def baseUrl? (url : Url) (version : String) : Option Url :=
  if url.isBase then
    let trimmed := url.trimmed
    if trimmed.lastSegment = version then some trimmed.withoutQuery.withoutFragment
    else (trimmed.append? [version]).map fun versioned => versioned.withoutQuery.withoutFragment
  else none

def parse (address version : String) : Except Error Address :=
  match Url.parse? address with
  | none => .error (.configuration (.invalidAddress address))
  | some url =>
      if url.scheme = busScheme then
        match url.hostText? with
        | some host => .ok (.onBus host)
        | none => .error (.configuration (.noHost address))
      else
        match baseUrl? url version with
        | some base => .ok (.direct base)
        | none => .error (.configuration (.notBase url.text))

end Address

/-- An agent together with the way to it. -/
inductive Endpoint
  | direct (agent : HttpAgent)
  | onBus (agent : BusAgent)
  deriving DecidableEq, Repr

/-- What is known about an agent besides its address. -/
structure EndpointOptions where
  authentication : Authentication := .none
  http : HttpOptions := {}
  bus : BusOptions := {}
  certificates : List String := []
  deriving DecidableEq, Repr

/-- Certificates matter only to agents that are reached by requests. -/
def Endpoint.ofAddress (address : String) (options : EndpointOptions) :
    Except Error Endpoint := do
  match ← Address.parse (Text.trim address) options.http.version with
  | .onBus host => do
      let agent ← BusAgent.ofOptions host options.bus
      pure (.onBus agent)
  | .direct baseUrl =>
      if options.certificates.all Certificate.isUsable then
        pure (.direct ⟨baseUrl, options.authentication, options.http.timeout⟩)
      else throw (.configuration .certificates)

/-! ## Documents -/

open Json.Fields in
def HttpOptions.fields : Json.Fields Violation HttpOptions :=
  HttpOptions.mk <$> defaulted "api_version" Json.Reader.text "v2" <*>
    defaulted "request_timeout_sec" (Json.Reader.natural 64) 30

def HttpOptions.read : Decoding HttpOptions :=
  HttpOptions.fields.read

def HttpOptions.toJson (options : HttpOptions) : Json :=
  .object [("api_version", .string options.version),
    ("request_timeout_sec", .nat options.timeoutSeconds)]

/-- The way in which texts and numbers are taken is left open. -/
def BusOptions.fields (text : Decoding String) (number : Decoding Nat) :
    Json.Fields Violation BusOptions :=
  BusOptions.mk <$> .defaulted "servers" (Json.Reader.list text) [] <*>
    .defaulted "credentials_file" text "" <*>
    .defaulted "ca_cert_files" (Json.Reader.list text) [] <*>
    .defaulted "subject_namespace" text "trust-agent" <*>
    .defaulted "request_timeout_sec" number 10

def BusOptions.read : Decoding BusOptions :=
  (BusOptions.fields Json.Reader.text (Json.Reader.natural 64)).read

def BusOptions.toJson (options : BusOptions) : Json :=
  .object [("servers", Json.texts options.servers),
    ("credentials_file", .string options.credentialsFile),
    ("ca_cert_files", Json.texts options.certificateFiles),
    ("subject_namespace", .string options.namespaceName),
    ("request_timeout_sec", .nat options.timeoutSeconds)]

end Agent

end HostAttestation
