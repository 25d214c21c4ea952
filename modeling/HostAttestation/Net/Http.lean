import HostAttestation.Json.Basic
import HostAttestation.Text.Split
import HostAttestation.Url.Basic

/-! # Requests and replies

A network answers a request with a reply or fails, and remembers what it needs in a state of its
own. How it gets there is left to it: encryption and the authorities trusted for it, redirections,
the reuse of connections and the passing of time, of which only the outcome is seen. A peer that
follows a script is a network that hands out prepared outcomes in their order and keeps the
requests that reached it. -/

namespace HostAttestation

namespace Http

inductive Method
  | get
  | post
  deriving DecidableEq, Repr

inductive Credentials
  | bearer (token : String)
  | basic (username password : String)
  deriving DecidableEq, Repr

structure Request where
  method : Method
  url : Url
  accept : String
  userAgent : String
  credentials : Option Credentials
  /-- The identifier of a session that was opened before. -/
  session : Option String
  body : Option Json

inductive Interruption
  | failed
  | timedOut
  deriving DecidableEq, Repr

/-- The status comes first; the body may break off while it is read. -/
structure Reply where
  status : Nat
  body : Except Interruption Bytes
  deriving Repr

abbrev Outcome := Except Interruption Reply

abbrev Network (ν : Type) :=
  Request → StateM ν Outcome

def anything : String := "*/*"

def jsonType : String := "application/json"

def bytesType : String := "application/octet-stream"

/-! ## Status -/

def Reply.isSuccess (reply : Reply) : Bool :=
  200 ≤ reply.status && reply.status < 300

def unauthorized : Nat := 401

/-- The phrases registered for status codes. -/
def reasons : List (Nat × String) :=
  [(100, "Continue"), (101, "Switching Protocols"), (102, "Processing"), (200, "OK"),
    (201, "Created"), (202, "Accepted"), (203, "Non Authoritative Information"),
    (204, "No Content"), (205, "Reset Content"), (206, "Partial Content"),
    (207, "Multi-Status"), (208, "Already Reported"), (226, "IM Used"),
    (300, "Multiple Choices"), (301, "Moved Permanently"), (302, "Found"), (303, "See Other"),
    (304, "Not Modified"), (305, "Use Proxy"), (307, "Temporary Redirect"),
    (308, "Permanent Redirect"), (400, "Bad Request"), (401, "Unauthorized"),
    (402, "Payment Required"), (403, "Forbidden"), (404, "Not Found"),
    (405, "Method Not Allowed"), (406, "Not Acceptable"),
    (407, "Proxy Authentication Required"), (408, "Request Timeout"), (409, "Conflict"),
    (410, "Gone"), (411, "Length Required"), (412, "Precondition Failed"),
    (413, "Payload Too Large"), (414, "URI Too Long"), (415, "Unsupported Media Type"),
    (416, "Range Not Satisfiable"), (417, "Expectation Failed"), (418, "I'm a teapot"),
    (421, "Misdirected Request"), (422, "Unprocessable Entity"), (423, "Locked"),
    (424, "Failed Dependency"), (426, "Upgrade Required"), (428, "Precondition Required"),
    (429, "Too Many Requests"), (431, "Request Header Fields Too Large"),
    (451, "Unavailable For Legal Reasons"), (500, "Internal Server Error"),
    (501, "Not Implemented"), (502, "Bad Gateway"), (503, "Service Unavailable"),
    (504, "Gateway Timeout"), (505, "HTTP Version Not Supported"),
    (506, "Variant Also Negotiates"), (507, "Insufficient Storage"), (508, "Loop Detected"),
    (510, "Not Extended"), (511, "Network Authentication Required")]

def statusText (status : Nat) : String :=
  s!"{status} " ++
    match reasons.find? fun reason => reason.1 = status with
    | some reason => reason.2
    | none => "<unknown status code>"

/-! ## Networks -/

/-- A network on which no connection is ever established. -/
def unreachable {ν : Type} : Network ν :=
  fun _ => pure (.error .failed)

/-- Blanks other than the tab are no part of a header value. -/
def isHeaderChar (c : Char) : Bool :=
  c = '\t' || (0x20 ≤ c.toNat && c.toNat ≠ 0x7F)

def Request.headerValues (request : Request) : List String :=
  request.session.toList ++
    match request.credentials with
    | some (.bearer token) => [token]
    | _ => []

def Request.isSendable (request : Request) : Bool :=
  (request.url.scheme = "http" || request.url.scheme = "https") &&
    request.headerValues.all fun value => value.toList.all isHeaderChar

structure Peer where
  script : List Outcome
  received : List Request

/-- A request that cannot be sent does not reach the peer; after the script the peer is gone. -/
def Peer.network : Network Peer := fun request peer =>
  if request.isSendable then
    match peer.script with
    | [] => (.error .failed, ⟨[], peer.received ++ [request]⟩)
    | outcome :: rest => (outcome, ⟨rest, peer.received ++ [request]⟩)
  else (.error .failed, peer)

end Http

end HostAttestation
