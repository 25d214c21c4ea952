import HostAttestation.Json.Basic
import HostAttestation.Text.Blank
import HostAttestation.Text.Split
import HostAttestation.Url.Parser

/-! # The message bus

A request is published on a subject, whose tokens are separated by dots, and answered at most
once. Every request has a connection of its own, opened with the credentials of a file. What
becomes of the connection before the answer and after it is left to the bus. -/

namespace HostAttestation

namespace Bus

/-- A token of a subject: not empty, without blanks, dots and wildcards. -/
def isToken (token : List Char) : Bool :=
  !token.isEmpty && token.all fun c => !Text.isBlank c && c ≠ '.' && c ≠ '*' && c ≠ '>'

def schemes : List String := ["nats", "tls", "ws", "wss"]

def defaultScheme : List Char :=
  ['n', 'a', 't', 's', ':', '/', '/']

/-- Whether a text names a scheme. -/
def namesScheme : List Char → Bool
  | [] => false
  | c :: rest => [':', '/', '/'].isPrefixOf (c :: rest) || namesScheme rest

/-- The address of a server, on the bus itself if the text names no scheme. -/
def server? (text : String) : Option Url :=
  let full := if namesScheme text.toList then text.toList else defaultScheme ++ text.toList
  match Url.parse? (String.ofList full) with
  | some url => if url.scheme ∈ schemes then some url else none
  | none => none

structure Request where
  servers : List Url
  certificateFiles : List String
  subject : String
  payload : Option Json

inductive Outcome
  | reply (payload : Bytes)
  /-- The connection or the request failed, perhaps because nobody listens on the subject. -/
  | failed
  | timedOut
  deriving DecidableEq, Repr

/-- The bus, and the credentials files that can be used on it. -/
structure Network (ν : Type) where
  hasCredentials : String → Bool
  exchange : Request → StateM ν Outcome

/-- A bus on which no connection is ever established. -/
def unreachable {ν : Type} (hasCredentials : String → Bool) : Network ν :=
  ⟨hasCredentials, fun _ => pure .failed⟩

/-- A bus that follows a script. -/
structure Peer where
  script : List Outcome
  received : List Request

def Peer.network (hasCredentials : String → Bool) : Network Peer where
  hasCredentials := hasCredentials
  exchange request peer :=
    match peer.script with
    | [] => (.failed, peer)
    | outcome :: rest => (outcome, ⟨rest, peer.received ++ [request]⟩)

end Bus

end HostAttestation
