import HostAttestation.Url.Host

/-! # Addresses

An address names a scheme, perhaps an authority with the host to contact, and a path. A path is
a list of segments, or, in schemes that have no hierarchy, a text. The empty list of segments is
the path of an address that ends behind its authority. -/

namespace HostAttestation

namespace Url

inductive Path
  | verbatim (text : String)
  | segments (list : List String)
  deriving DecidableEq, Repr

/-- Who to contact, and as whom. A missing name or password is empty, and so is the host of an
address that names none. -/
structure Authority where
  username : String
  password : String
  host : Host
  port : Option Nat
  deriving DecidableEq, Repr

end Url

structure Url where
  scheme : String
  authority : Option Url.Authority
  /-- Whether a dot stands in front of a path that would look like an authority without it. -/
  isGuarded : Bool
  path : Url.Path
  query : Option String
  fragment : Option String
  deriving DecidableEq, Repr

namespace Url

/-- The ports that the well known schemes use if an address names none. -/
def defaultPort? (scheme : String) : Option Nat :=
  if scheme = "http" ∨ scheme = "ws" then some 80
  else if scheme = "https" ∨ scheme = "wss" then some 443
  else if scheme = "ftp" then some 21
  else none

def isFile (scheme : String) : Bool :=
  scheme = "file"

/-- The well known schemes: their addresses always have a path, and a backslash counts as a
slash. -/
def isSpecial (scheme : String) : Bool :=
  (defaultPort? scheme).isSome || isFile scheme

/-! ## Text -/

def Authority.text (authority : Authority) : String :=
  (if authority.username = "" ∧ authority.password = "" then ""
    else
      authority.username ++
        (if authority.password = "" then "" else ":" ++ authority.password) ++ "@") ++
    authority.host.text ++
    match authority.port with
    | none => ""
    | some port => s!":{port}"

def Path.text : Path → String
  | .verbatim text => text
  | .segments list => String.join (list.map ("/" ++ ·))

/-- What stands between scheme and path. -/
def leadText (url : Url) : String :=
  match url.authority with
  | some authority => "//" ++ authority.text
  | none => if url.isGuarded then "/." else ""

def marked (mark : String) : Option String → String
  | none => ""
  | some text => mark ++ text

def text (url : Url) : String :=
  url.scheme ++ ":" ++ url.leadText ++ url.path.text ++ marked "?" url.query ++
    marked "#" url.fragment

/-- The name of the host, if there is one. -/
def hostText? (url : Url) : Option String :=
  match url.authority with
  | none => none
  | some authority =>
      let text := authority.host.text
      if text = "" then none else some text

/-- What a request to the address asks for. -/
def target (url : Url) : String :=
  (match url.path with
    | .segments [] => "/"
    | path => path.text) ++ marked "?" url.query

end Url

end HostAttestation
