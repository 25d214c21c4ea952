import HostAttestation.Agent.Address
import HostAttestation.Trust

/-! # Settings of connectors

Every setting has a default. Settings are read from documents in two dialects: a document that is
read as it stands must have values of the right type and no more of them than there are settings,
a configuration file may have values that can be converted. -/

namespace HostAttestation

structure AgentSettings where
  http : Agent.HttpOptions := {}
  /-- Sent as it is when no credentials are configured. -/
  bearerToken : Option String := none
  /-- Credentials that a connection string overrides. -/
  username : Option String := none
  password : Option String := none
  deriving DecidableEq, Repr

structure Settings where
  agent : AgentSettings := {}
  bus : Agent.BusOptions := {}
  vcenterTimeoutSeconds : Nat := 30
  trust : TrustSettings := {}
  deriving DecidableEq, Repr

namespace Settings

/-- How texts, numbers and lists that stand for records are taken. -/
structure Dialect where
  text : Decoding String
  number : Decoding Nat
  allowsFurtherItems : Bool

def Dialect.record (dialect : Dialect) (fields : Json.Fields Violation α) : Decoding α :=
  if dialect.allowsFurtherItems then fields.readLeading else fields.read

def strict : Dialect :=
  ⟨Json.Reader.text, Json.Reader.natural 64, false⟩

open Json.Fields

def agentFields (dialect : Dialect) : Json.Fields Violation AgentSettings :=
  (fun version timeout bearerToken username password =>
      ⟨⟨version, timeout⟩, bearerToken, username, password⟩) <$>
    defaulted "api_version" dialect.text "v2" <*>
    defaulted "request_timeout_sec" dialect.number 30 <*>
    Json.Fields.optional "bearer_token" dialect.text <*>
    Json.Fields.optional "aas_username" dialect.text <*>
    Json.Fields.optional "aas_password" dialect.text

def agentsFields (dialect : Dialect) :
    Json.Fields Violation (AgentSettings × Agent.BusOptions) :=
  Prod.mk <$> defaulted "http" (dialect.record (agentFields dialect)) {} <*>
    defaulted "nats"
      (dialect.record (Agent.BusOptions.fields dialect.text dialect.number)) {}

def vcenterFields (dialect : Dialect) : Json.Fields Violation Nat :=
  defaulted "request_timeout_sec" dialect.number 30

def trustFields (dialect : Dialect) : Json.Fields Violation TrustSettings :=
  TrustSettings.mk <$> Json.Fields.optional "trusted_ca_dir" dialect.text <*>
    Json.Fields.optional "aas_api_url" dialect.text

def fields (dialect : Dialect) : Json.Fields Violation Settings :=
  (fun (agents : AgentSettings × Agent.BusOptions) vcenter trust =>
      ⟨agents.1, agents.2, vcenter, trust⟩) <$>
    defaulted "trust_agent" (dialect.record (agentsFields dialect)) ({}, {}) <*>
    defaulted "vsphere" (dialect.record (vcenterFields dialect)) 30 <*>
    defaulted "trust" (dialect.record (trustFields dialect)) {}

/-- Reads a document as it stands. -/
def read : Decoding Settings :=
  (fields strict).read

end Settings

end HostAttestation
