import HostAttestation.Agent.Client
import HostAttestation.Net.Bus

/-! # Agents reached on the message bus

The agent of a host listens on subjects made of a namespace, the host and the operation. -/

namespace HostAttestation

namespace Agent

structure BusOptions where
  servers : List String := []
  credentialsFile : String := ""
  certificateFiles : List String := []
  namespaceName : String := "trust-agent"
  timeoutSeconds : Nat := 10
  deriving DecidableEq, Repr

/-- The tokens of the namespace and of the host are valid, and there is a server. -/
structure BusAgent where
  host : String
  options : BusOptions
  servers : List Url
  deriving DecidableEq, Repr

def BusOptions.timeout (options : BusOptions) : Duration :=
  .ofSeconds options.timeoutSeconds

namespace BusAgent

variable {ν : Type}

def checkToken (role token : String) : Except Error Unit :=
  if Bus.isToken token.toList then .ok ()
  else .error (.configuration (.subjectToken role token))

def checkServer (server : String) : Except Error Url :=
  match Bus.server? server with
  | some url => .ok url
  | none => .error (.configuration (.invalidServer server))

def ofOptions (host : String) (options : BusOptions) : Except Error BusAgent := do
  checkToken "host id" host
  (Text.splitText '.' options.namespaceName).forM (checkToken "subject namespace")
  if options.servers = [] then throw (.configuration .noServer)
  let servers ← options.servers.mapM checkServer
  pure ⟨host, options, servers⟩

def subject (agent : BusAgent) (operation : Operation) : String :=
  agent.options.namespaceName ++ "." ++ agent.host ++ "." ++ operation.subjectToken

/-- One request on a connection of its own. -/
def request (agent : BusAgent) (bus : Bus.Network ν) : Transport ν := fun operation payload => do
  if !bus.hasCredentials agent.options.credentialsFile then
    throw (.configuration (.credentialsFile agent.options.credentialsFile))
  let outcome ← bus.exchange
    { servers := agent.servers
      certificateFiles := agent.options.certificateFiles
      subject := agent.subject operation
      payload := payload }
  match outcome with
  | .reply body => pure body
  | .failed => throw (.transport operation [.unstated])
  | .timedOut => throw (.timeout operation agent.options.timeout [.unstated])

def client (agent : BusAgent) (bus : Bus.Network ν) : Client ν :=
  .ofTransport (agent.request bus) none

end BusAgent

end Agent

end HostAttestation
