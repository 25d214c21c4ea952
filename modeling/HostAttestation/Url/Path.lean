import HostAttestation.Url.Basic

/-! # Paths of an address

A path grows by one segment at a time; dots do not name a segment but a place. Extending a path
keeps its segments and appends the new ones, in which a slash is no separator. -/

namespace HostAttestation

namespace Url

def dotForms : List String :=
  [".", "%2e", "%2E"]

def doubleDotForms : List String :=
  dotForms.flatMap fun left => dotForms.map (left ++ ·)

/-- Line breaks and tabs are no part of an address. -/
def isIgnored (c : Char) : Bool :=
  c = '\t' || c = '\n' || c = '\r'

def withoutIgnored (text : List Char) : List Char :=
  text.filter (!isIgnored ·)

/-- A drive letter with a colon or a bar. -/
def isDrive (segment : List Char) : Bool :=
  match segment with
  | [letter, mark] => letter.isAlpha && (mark = ':' || mark = '|')
  | _ => false

/-- A drive, or one with a backslash behind it. -/
def startsWithDrive (segment : List Char) : Bool :=
  isDrive (segment.take 2) && (segment.drop 2).head?.all (· = '\\')

/-- One segment up; there is no way up from a drive. -/
def parent (segments : List String) : List String :=
  if segments.getLast?.any fun last => startsWithDrive last.toList then segments
  else segments.dropLast

/-- Goes to an encoded segment. The last segment of a path ends it even if it is made of dots. -/
def enter (segments : List String) (segment : String) (last : Bool) : List String :=
  if segment ∈ doubleDotForms then
    parent segments ++ if last then [""] else []
  else if segment ∈ dotForms then
    segments ++ if last then [""] else []
  else segments ++ [segment]

/-- A drive and what follows it, if a line break or a tab stands between them. -/
def cutDrive? (part : List Char) : Option (List Char × List Char) :=
  match part.dropWhile isIgnored with
  | letter :: rest =>
      match rest.dropWhile isIgnored with
      | ':' :: rest =>
          if letter.isAlpha && rest.head?.any isIgnored && !(withoutIgnored rest).isEmpty then
            some ([letter, ':'], withoutIgnored rest)
          else none
      | _ => none
  | [] => none

/-- Goes to a part of a path as it is written. A file path that begins with a drive and something
else behind a line break has them as two segments, the second of which is no place. -/
def enterPart (file : Bool) (encode : List Char → String) (segments : List String)
    (part : List Char) (last : Bool) : List String :=
  match cutDrive? part with
  | some (drive, rest) =>
      if file && segments.isEmpty then [String.ofList drive, encode rest]
      else enter segments (encode (withoutIgnored part)) last
  | none => enter segments (encode (withoutIgnored part)) last

/-- Goes along the parts of a path one after the other. -/
def enterAll (file : Bool) (encode : List Char → String) (segments : List String) :
    List (List Char) → List String
  | [] => segments
  | [part] => enterPart file encode segments part true
  | part :: rest => enterAll file encode (enterPart file encode segments part false) rest

/-- A file path does not begin with empty segments. -/
def trimFile (file : Bool) : List String → List String
  | "" :: next :: rest => if file then trimFile file (next :: rest) else "" :: next :: rest
  | segments => segments

/-! ## Extending -/

/-- Whether segments can be appended. -/
def isBase (url : Url) : Bool :=
  match url.path with
  | .verbatim _ => false
  | .segments list => url.authority.isSome || !list.isEmpty

def encodeSegment (scheme : String) (segment : List Char) : String :=
  Percent.encode (Percent.segmentSet ++ if isSpecial scheme then ['\\'] else []) segment

/-- The path without an empty last segment, except for the root. -/
def withoutEmptyEnd (segments : List String) : List String :=
  match segments with
  | [_] => segments
  | _ => if segments.getLast? = some "" then segments.dropLast else segments

/-- The root holds no segment yet. -/
def withoutRoot (segments : List String) : List String :=
  if segments = [""] then [] else segments

def appendSegment (scheme : String) (segments : List String) (segment : String) : List String :=
  if segment = "." ∨ segment = ".." then segments
  else
    trimFile (isFile scheme)
      (enterPart (isFile scheme) (encodeSegment scheme) (withoutRoot segments) segment.toList true)

def appendSegments (scheme : String) : List String → List String → List String
  | segments, [] => segments
  | segments, segment :: rest =>
      appendSegments scheme (appendSegment scheme segments segment) rest

/-- The address followed by more segments. -/
def append? (url : Url) (more : List String) : Option Url :=
  if url.isBase then
    match url.path with
    | .verbatim _ => none
    | .segments list =>
        some { url with path := .segments (appendSegments url.scheme list more) }
  else none

/-- The address without an empty last segment. -/
def trimmed (url : Url) : Url :=
  match url.path with
  | .verbatim _ => url
  | .segments list => { url with path := .segments (withoutEmptyEnd list) }

/-- The address of something below this one. -/
def below? (url : Url) (path : List String) : Option Url :=
  url.trimmed.append? path

def lastSegment (url : Url) : String :=
  match url.path with
  | .verbatim _ => ""
  | .segments list => list.getLast?.getD ""

/-- The address of the root of the same host. A text in the place of a path gets the escaped
root. -/
def atRoot (url : Url) : Url :=
  { url with
    path :=
      match url.path with
      | .verbatim _ => .verbatim "%2F"
      | .segments _ => .segments [""] }

def withoutQuery (url : Url) : Url :=
  { url with query := none }

def withoutFragment (url : Url) : Url :=
  { url with fragment := none }

/-! ## Query pairs -/

/-- In a query pair a blank is a plus sign, and only letters, digits and four marks stand for
themselves. -/
def encodePairChar (c : Char) : List Char :=
  if c = ' ' then ['+']
  else if c.isAlphanum || c = '*' || c = '-' || c = '.' || c = '_' then [c]
  else (Utf8.encode (String.singleton c)).flatMap Percent.encodeByte

def encodePairText (text : String) : String :=
  String.ofList (text.toList.flatMap encodePairChar)

def withPair (url : Url) (key value : String) : Url :=
  let pair := encodePairText key ++ "=" ++ encodePairText value
  { url with
    query :=
      match url.query with
      | none => some pair
      | some "" => some pair
      | some query => some (query ++ "&" ++ pair) }

end Url

end HostAttestation
