import HostAttestation.Net.Certificate
import HostAttestation.Net.Http
import HostAttestation.Text.Split
import HostAttestation.Url.Parser
import HostAttestation.Vcenter.Api

/-! # vCenter clients

A client logs in when it has no session and sends the identifier of the session with every
request. When a session is rejected the client logs in again and tries once more. -/

namespace HostAttestation

namespace Vcenter

open Connector (Call)

structure Client where
  baseUrl : Url
  username : String
  password : String
  deriving DecidableEq, Repr

/-- The session at hand and the state of the network. -/
structure Client.Session (ν : Type) where
  id : Option String
  network : ν

namespace Client

variable {ν : Type}

def userAgent : String := "host-connector/0.1.0"

/-- A client that trusts certificates, each of which must be well formed. -/
def trusting (client : Client) (certificates : List String) : Except Connector.Error Client :=
  if certificates.all Certificate.isUsable then .ok client
  else .error (.configuration .certificates)

/-- The address of an endpoint, whose parts are separated by slashes. -/
def endpoint (client : Client) (path : String) : Except Connector.Error Url :=
  match client.baseUrl.below? (Text.splitText '/' path) with
  | some url => .ok url
  | none => .error (.configuration (.notBase client.baseUrl.text))

/-- The address of a search for something of a name. -/
def search (client : Client) (path key value : String) : Except Connector.Error Url :=
  (client.endpoint path).map fun url => url.withPair key value

def interrupted (operation : Connector.Operation) : Http.Interruption → Connector.Error
  | .failed => .failed .transport operation [.unstated]
  | .timedOut => .failed .timeout operation [.unstated]

def exchange (network : Http.Network ν) (operation : Connector.Operation)
    (request : Http.Request) : Call (Session ν) Http.Reply := do
  let session ← get
  let (outcome, after) := network request session.network
  set { session with network := after }
  liftExcept (outcome.mapError (interrupted operation))

def decodeReply (operation : Connector.Operation) (read : Decoding α) (body : Bytes) :
    Except Connector.Error α :=
  ((Json.parse body).read read).mapError fun fault =>
    .failed .decode operation [Cause.ofFault fault]

/-- The body is read to its end before the status decides. -/
def idOfReply (operation : Connector.Operation) (reply : Http.Reply) :
    Except Connector.Error String := do
  let body ← reply.body.mapError (interrupted operation)
  if reply.isSuccess then decodeReply operation Json.Reader.text body
  else
    throw (.failed .transport operation
      [.stated ("vCenter login returned HTTP " ++ Http.statusText reply.status)])

def login (client : Client) (network : Http.Network ν) (operation : Connector.Operation) :
    Call (Session ν) String := do
  let url ← liftExcept (client.endpoint "api/session")
  let reply ← exchange network operation
    { method := .post
      url := url
      accept := Http.anything
      userAgent := userAgent
      credentials := some (.basic client.username client.password)
      session := none
      body := none }
  liftExcept (idOfReply operation reply)

/-- The identifier of the session, opened if there is none. -/
def sessionId (client : Client) (network : Http.Network ν) (operation : Connector.Operation) :
    Call (Session ν) String := do
  match (← get).id with
  | some id => pure id
  | none => do
      let id ← client.login network operation
      modify fun session => { session with id := some id }
      pure id

def attempt (client : Client) (network : Http.Network ν) (operation : Connector.Operation)
    (url : Url) : Call (Session ν) Http.Reply := do
  let id ← client.sessionId network operation
  exchange network operation
    { method := .get
      url := url
      accept := Http.jsonType
      userAgent := userAgent
      credentials := none
      session := some id
      body := none }

def valueOfReply (operation : Connector.Operation) (read : Decoding α) (reply : Http.Reply) :
    Except Connector.Error α := do
  let body ← reply.body.mapError (interrupted operation)
  if reply.isSuccess then decodeReply operation read body
  else
    throw (.failed .transport operation
      [.stated ("HTTP " ++ Http.statusText reply.status ++ ": " ++ Utf8.lossy body)])

def fetch (client : Client) (network : Http.Network ν) (operation : Connector.Operation)
    (read : Decoding α) (url : Url) : Call (Session ν) α := do
  let first ← client.attempt network operation url
  if first.status = Http.unauthorized then
    modify fun session => { session with id := none }
    let second ← client.attempt network operation url
    liftExcept (valueOfReply operation read second)
  else liftExcept (valueOfReply operation read first)

/-- The identifier of the first host that has exactly the name. -/
def hostId (client : Client) (network : Http.Network ν) (operation : Connector.Operation)
    (name : String) : Call (Session ν) String := do
  let url ← liftExcept (client.search "api/vcenter/host" "names" name)
  let hosts ← client.fetch network operation (Json.Reader.list HostReference.read) url
  match hosts.find? fun host => host.name = name with
  | some host => pure host.host
  | none => throw (.configuration (.unknownHost name))

/-- Fetches something that belongs to a host. -/
def fetchOfHost (client : Client) (network : Http.Network ν) (operation : Connector.Operation)
    (read : Decoding α) (name part : String) : Call (Session ν) α := do
  let id ← client.hostId network operation name
  let url ← liftExcept (client.endpoint ("api/esx/hosts/" ++ id ++ "/" ++ part))
  client.fetch network operation read url

def api (client : Client) (network : Http.Network ν) : Api (Session ν) where
  hostInfo name := do
    let summary ←
      client.fetchOfHost network hostInfoOperation HostSummary.read name "summary"
    pure summary.hostInfo
  attestationReport name :=
    client.fetchOfHost network .getAttestationReport AttestationReport.read name
      "tpm-attestation-report"
  clusterHosts name := do
    let url ← liftExcept (client.search "api/vcenter/cluster" "names" name)
    let clusters ←
      client.fetch network .getClusterHosts (Json.Reader.list ClusterReference.read) url
    match clusters.find? fun cluster => cluster.name = name with
    | none => throw (.configuration (.unknownCluster name))
    | some cluster => do
        let url ← liftExcept (client.search "api/vcenter/host" "clusters" cluster.cluster)
        client.fetch network .getClusterHosts (Json.Reader.list HostReference.read) url

end Client

end Vcenter

end HostAttestation
