import HostAttestation.Text.Blank
import HostAttestation.Url.Path

/-! # Reading addresses

Controls and blanks around an address, and line breaks and tabs within it, are ignored. The well
known schemes are forgiving about slashes; the others are taken as they are written. -/

namespace HostAttestation

namespace Url

/-- What is left of a text after the part that was just read. -/
abbrev Rest := List Char

def isMargin (c : Char) : Bool :=
  c.toNat ≤ 0x20

def withoutMargins (text : String) : List Char :=
  ((text.toList.dropWhile isMargin).reverse.dropWhile isMargin).reverse

def isSchemeChar (c : Char) : Bool :=
  c.isAlphanum || c = '+' || c = '-' || c = '.'

/-- A letter and what follows it, up to a colon. -/
def scheme? (text : List Char) : Option (String × Rest) :=
  match Text.cut? ':' text with
  | none => none
  | some (before, rest) =>
      let scheme := withoutIgnored before
      if (scheme.head?.any Char.isAlpha) && scheme.all isSchemeChar then
        some (String.ofList (scheme.map Char.toLower), rest)
      else none

def isSlash (special : Bool) (c : Char) : Bool :=
  c = '/' || (special && c = '\\')

/-- Whether a character ends the authority. -/
def endsAuthority (special : Bool) (c : Char) : Bool :=
  isSlash special c || c = '?' || c = '#'

/-! ## Authorities -/

/-- The text before and behind the last at sign. -/
def cutUser (text : List Char) : Option (List Char × List Char) :=
  (Text.cut? '@' text.reverse).map fun (host, user) => (user.reverse, host.reverse)

/-- Name and password, parted by the first colon. -/
def credentials (text : List Char) : String × String :=
  match Text.cut? ':' text with
  | none => (Percent.encode Percent.userSet text, "")
  | some (name, password) =>
      (Percent.encode Percent.userSet name, Percent.encode Percent.userSet password)

/-- The host ends at the first colon outside of brackets. -/
def spanHost : (inside : Bool) → List Char → List Char × List Char
  | _, [] => ([], [])
  | inside, c :: rest =>
      if c = ':' && !inside then ([], c :: rest)
      else
        let (host, after) := spanHost (c = '[' || (inside && c ≠ ']')) rest
        (c :: host, after)

def isDigit (c : Char) : Bool :=
  '0' ≤ c && c ≤ '9'

/-- A port number behind a colon, the default port being the same as none. A backslash ends it
in every scheme. -/
def port? (scheme : String) (text : List Char) : Option (Option Nat × Rest) :=
  match text with
  | ':' :: rest =>
      let digits := rest.takeWhile isDigit
      let after := rest.dropWhile isDigit
      let number := digits.foldl (fun number digit => number * 10 + (digit.toNat - 48)) 0
      if number < 65536 ∧ (after.head?.all fun c => c = '\\') then
        if digits = [] ∨ defaultPort? scheme = some number then some (none, after)
        else some (some number, after)
      else none
  | _ => some (none, text)

/-- Reads host and port from the text of an authority without its credentials. -/
def hostAndPort? (scheme : String) (text : List Char) :
    Option (Host × Option Nat × Rest) := do
  let (hostText, after) := spanHost false text
  if hostText = [] ∧ (isSpecial scheme ∨ after ≠ []) then none
  else
    let host ← if isSpecial scheme then Host.ofDomain hostText else Host.ofName hostText
    let (port, rest) ← port? scheme after
    pure (host, port, rest)

/-- Reads an authority and gives out what follows it. Credentials need a host. -/
def authority? (scheme : String) (text : List Char) : Option (Authority × Rest) := do
  let special := isSpecial scheme
  let body := text.takeWhile (!endsAuthority special ·)
  let after := text.dropWhile (!endsAuthority special ·)
  match cutUser body with
  | none => do
      let (host, port, rest) ← hostAndPort? scheme body
      pure (⟨"", "", host, port⟩, rest ++ after)
  | some (user, hostText) => do
      let (username, password) := credentials user
      let (host, port, rest) ← hostAndPort? scheme hostText
      let named := username ≠ "" || password ≠ ""
      if host = .name "" ∧ (named ∨ (user = [] ∧ after ≠ [])) then none
      else pure (⟨username, password, host, port⟩, rest ++ after)

/-! ## What follows the authority -/

def beforeQuery (c : Char) : Bool :=
  c ≠ '?' && c ≠ '#'

/-- The parts between slashes. -/
def splitPath (special : Bool) (text : List Char) : List (List Char) :=
  Text.split '/' (text.map fun c => if isSlash special c then '/' else c)

/-- The segments of a path behind its first slash. -/
def segmentsOf (scheme : String) (text : List Char) : List String :=
  let parts := splitPath (isSpecial scheme) text
  trimFile (isFile scheme)
    (enterAll (isFile scheme) (Percent.encode Percent.pathSet) [] parts)

/-- The path behind an authority. -/
def pathOf (scheme : String) (text : List Char) : Path :=
  match text with
  | [] => .segments (if isSpecial scheme then [""] else [])
  | c :: rest =>
      .segments (segmentsOf scheme (if isSlash (isSpecial scheme) c then rest else text))

def queryText (scheme : String) (text : List Char) : String :=
  Percent.encode
    (Percent.querySet ++ if isSpecial scheme then ['\x27'] else []) text

/-- Without an authority, a path must not look like one. -/
def needsGuard (authority : Option Authority) (path : Path) : Bool :=
  match authority, path with
  | none, .segments ("" :: _ :: _) => true
  | _, _ => false

/-- Adds query and fragment, with which the rest of the text begins. -/
def finish (scheme : String) (authority : Option Authority) (path : Path) (rest : Rest) : Url :=
  let (query, rest) : Option String × Rest :=
    match rest with
    | '?' :: rest => (some (queryText scheme (rest.takeWhile (· ≠ '#'))), rest.dropWhile (· ≠ '#'))
    | _ => (none, rest)
  let fragment : Option String :=
    match rest with
    | '#' :: rest => some (Percent.encode Percent.fragmentSet rest)
    | _ => none
  ⟨scheme, authority, needsGuard authority path, path, query, fragment⟩

def withAuthority (scheme : String) (text : List Char) : Option Url := do
  let (authority, rest) ← authority? scheme text
  let path := pathOf scheme (rest.takeWhile beforeQuery)
  pure (finish scheme (some authority) path (rest.dropWhile beforeQuery))

/-! ## Files

A file is on the local host unless another one is named. Line breaks and tabs are still in the text
here, since they part a drive from what follows it. -/

def localAuthority (host : Host) : Option Authority :=
  some ⟨"", "", host, none⟩

def fileAt (scheme : String) (host : Host) (text : List Char) : Url :=
  let path := (text.takeWhile beforeQuery).dropWhile isIgnored
  let path := if path.head?.any (isSlash true) then path.drop 1 else path
  finish scheme (localAuthority host) (.segments (segmentsOf scheme path))
    (withoutIgnored (text.dropWhile beforeQuery))

/-- The host behind two slashes. -/
def fileHost? (text : List Char) : Option Host :=
  if text = [] then some (.name "")
  else
    match Host.ofDomain text with
    | some host => some (if host = .name "localhost" then .name "" else host)
    | none => none

def remoteFile? (scheme : String) (text : List Char) : Option Url :=
  let hostText := withoutIgnored (text.takeWhile (!endsAuthority true ·))
  if isDrive hostText then some (fileAt scheme (.name "") text)
  else
    (fileHost? hostText).map fun host =>
      fileAt scheme host (text.dropWhile (!endsAuthority true ·))

def cutSlash? (text : List Char) : Option Rest :=
  match text.dropWhile isIgnored with
  | c :: rest => if isSlash true c then some rest else none
  | [] => none

def fileUrl? (scheme : String) (text : List Char) : Option Url :=
  match (cutSlash? text).bind cutSlash? with
  | some rest => remoteFile? scheme rest
  | none => some (fileAt scheme (.name "") text)

/-! ## Other schemes -/

def withoutAuthority (scheme : String) (text : List Char) : Url :=
  let body := text.takeWhile beforeQuery
  let path : Path :=
    match body with
    | '/' :: rest => .segments (segmentsOf scheme rest)
    | _ => .verbatim (Percent.encode [] body)
  finish scheme none path (text.dropWhile beforeQuery)

def parse? (text : String) : Option Url :=
  match scheme? (withoutMargins text) with
  | none => none
  | some (scheme, rest) =>
      if isFile scheme then fileUrl? scheme rest
      else
        let rest := withoutIgnored rest
        if isSpecial scheme then withAuthority scheme (rest.dropWhile (isSlash true))
        else
          match rest with
          | '/' :: '/' :: rest => withAuthority scheme rest
          | _ => some (withoutAuthority scheme rest)

end Url

end HostAttestation
