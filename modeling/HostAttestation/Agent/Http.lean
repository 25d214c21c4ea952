import HostAttestation.Agent.Client
import HostAttestation.Net.Http

/-! # Agents reached by requests

Every operation is a request below the base address. Tokens of the authentication service are
kept until the agent rejects one; then the client asks for a new token and tries once more. -/

namespace HostAttestation

namespace Agent

inductive Authentication
  | none
  | bearer (token : String)
  /-- Tokens are issued by the service at an address in exchange for credentials. -/
  | service (url : Url) (username password : String)
  deriving DecidableEq, Repr

structure HttpAgent where
  baseUrl : Url
  authentication : Authentication
  timeout : Duration
  deriving DecidableEq, Repr

/-- The token at hand and the state of the network. -/
structure HttpAgent.Session (ν : Type) where
  token : Option String
  network : ν

namespace HttpAgent

variable {ν : Type}

def userAgent : String := "host-connector-ta-client/0.1.0"

/-- The address of an operation. -/
def join (base : Url) (path : List String) : Except Error Url :=
  match base.below? path with
  | some url => .ok url
  | none => .error (.configuration (.unusableBase base.text))

def interrupted (agent : HttpAgent) (operation : Operation) : Http.Interruption → Error
  | .failed => .transport operation [.unstated]
  | .timedOut => .timeout operation agent.timeout [.unstated]

/-- Sends one request. -/
def exchange (agent : HttpAgent) (network : Http.Network ν) (operation : Operation)
    (request : Http.Request) : Call (Session ν) Http.Reply := do
  let session ← get
  let (outcome, after) := network request session.network
  set { session with network := after }
  liftExcept (outcome.mapError (agent.interrupted operation))

/-- What an agent or a service says about a failure. -/
def complaint (introduction : String) (status : Nat) (body : Bytes) : Cause :=
  .stated (introduction ++ Http.statusText status ++ ": " ++ Utf8.lossy body)

/-- The body is read to its end before the status decides. -/
def tokenOfReply (agent : HttpAgent) (reply : Http.Reply) : Except Error String := do
  let body ← reply.body.mapError (agent.interrupted .authenticate)
  if reply.isSuccess then
    let token := Text.trim (Utf8.lossy body)
    if token = "" then throw (.decode .authenticate [.stated "empty token"]) else pure token
  else
    throw (.transport .authenticate
      [complaint "authentication service returned HTTP " reply.status body])

def requestToken (agent : HttpAgent) (network : Http.Network ν) (url : Url)
    (username password : String) : Call (Session ν) String := do
  let endpoint ← liftExcept (join url Operation.authenticate.path)
  let reply ← agent.exchange network .authenticate
    { method := .post
      url := endpoint
      accept := Http.anything
      userAgent := userAgent
      credentials := none
      session := none
      body := some (.object [("username", .string username), ("password", .string password)]) }
  liftExcept (agent.tokenOfReply reply)

/-- The token to send, asked for if there is none at hand. -/
def bearerToken (agent : HttpAgent) (network : Http.Network ν) :
    Call (Session ν) (Option String) := do
  match agent.authentication with
  | .none => pure none
  | .bearer token => pure (some token)
  | .service url username password =>
      match (← get).token with
      | some token => pure (some token)
      | none => do
          let token ← agent.requestToken network url username password
          modify fun session => { session with token := some token }
          pure (some token)

/-- One request to the agent, with a token if the client uses tokens. -/
def attempt (agent : HttpAgent) (network : Http.Network ν) (operation : Operation)
    (method : Http.Method) (accept : String) (body : Option Json) (url : Url) :
    Call (Session ν) Http.Reply := do
  let token ← agent.bearerToken network
  agent.exchange network operation
    { method := method
      url := url
      accept := accept
      userAgent := userAgent
      credentials := token.map .bearer
      session := none
      body := body }

def mayRenew (agent : HttpAgent) : Bool :=
  match agent.authentication with
  | .service _ _ _ => true
  | _ => false

def bodyOfReply (agent : HttpAgent) (operation : Operation) (reply : Http.Reply) :
    Except Error Bytes := do
  let body ← reply.body.mapError (agent.interrupted operation)
  if reply.isSuccess then pure body
  else throw (.transport operation [complaint "HTTP " reply.status body])

/-- The body of the agent's answer. The body of a rejection that the client renews its token for
is not read. -/
def send (agent : HttpAgent) (network : Http.Network ν) (operation : Operation)
    (method : Http.Method) (accept : String) (body : Option Json) : Call (Session ν) Bytes := do
  let url ← liftExcept (join agent.baseUrl operation.path)
  let first ← agent.attempt network operation method accept body url
  if first.status = Http.unauthorized ∧ agent.mayRenew then
    modify fun session => { session with token := none }
    let second ← agent.attempt network operation method accept body url
    liftExcept (agent.bodyOfReply operation second)
  else liftExcept (agent.bodyOfReply operation first)

/-- Certificates are bytes, all other answers documents. -/
def accepted : Operation → String
  | .getAik => Http.bytesType
  | .getBindingKeyCertificate => Http.bytesType
  | _ => Http.jsonType

/-- What has a payload is posted. -/
def transport (agent : HttpAgent) (network : Http.Network ν) : Transport (Session ν) :=
  fun operation payload =>
    agent.send network operation (if payload.isSome then .post else .get) (accepted operation)
      payload

def client (agent : HttpAgent) (network : Http.Network ν) : Client (Session ν) :=
  .ofTransport (agent.transport network) (some agent.baseUrl)

end HttpAgent

end Agent

end HostAttestation
