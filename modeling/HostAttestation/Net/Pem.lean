import HostAttestation.Bytes.Base64
import HostAttestation.Text.Split

/-! # Sections of armoured text

A text may hold any number of sections between marker lines, which name what is in them; what
stands outside of the markers is ignored. A marker that opens a section closes the one that is
open, the digits of which go on in the new one. The content of a section of an unknown kind is not
looked at. -/

namespace HostAttestation

namespace Pem

structure Section where
  label : List Char
  content : Bytes
  deriving DecidableEq, Repr

def certificateLabel : List Char := "CERTIFICATE".toList

def knownLabels : List (List Char) :=
  [certificateLabel, "PUBLIC KEY".toList, "RSA PRIVATE KEY".toList, "PRIVATE KEY".toList,
    "EC PRIVATE KEY".toList, "X509 CRL".toList, "CERTIFICATE REQUEST".toList,
    "ECHCONFIG".toList]

/-! ## Marker lines -/

def beginMarker : List Char := "-----BEGIN ".toList

def endMarker : List Char := "-----END ".toList

def dashes : List Char := "-----".toList

def endOf (label : List Char) : List Char :=
  endMarker ++ label ++ dashes

def isTrailing (c : Char) : Bool :=
  c = '-' || c = ' '

/-- What a line that opens a section says it is. The line ends with five dashes, spaces among or
behind them being ignored. -/
def label? (line : List Char) : Option (List Char) :=
  let trailer := (line.reverse.takeWhile isTrailing).reverse
  if trailer.count '-' = dashes.length then
    some ((line.take (line.length - trailer.length) ++ trailer.takeWhile (· = ' ')).drop
      beginMarker.length)
  else none

/-! ## Sections -/

/-- The content of a closed section, if it is of a known kind. -/
def close? (label digits : List Char) : Option (List Section) :=
  if label ∈ knownLabels then
    (Base64.decodeLines? digits).map fun content => [⟨label, content⟩]
  else some []

/-- The sections of the lines behind a place. Before it a section of some label may be open, and
digits may have been read. -/
def sectionsFrom? : (opened : Option (List Char)) → (digits : List Char) → List (List Char) →
    Option (List Section)
  | none, _, [] => some []
  | some _, _, [] => none
  | opened, digits, line :: rest =>
      if beginMarker.isPrefixOf line then
        match label? line with
        | some label => sectionsFrom? (some label) digits rest
        | none => none
      else
        match opened with
        | none => sectionsFrom? none digits rest
        | some label =>
            if (endOf label).isPrefixOf line then
              match close? label digits, sectionsFrom? none [] rest with
              | some closed, some sections => some (closed ++ sections)
              | _, _ => none
            else sectionsFrom? (some label) (digits ++ line) rest

def lines (text : List Char) : List (List Char) :=
  Text.split '\n' (text.map fun c => if c = '\r' then '\n' else c)

def sections? (text : String) : Option (List Section) :=
  sectionsFrom? none [] (lines text.toList)

example : sections? "-----BEGIN ECHCONFIG-----\nAQ==\n-----END ECHCONFIG-----" =
    some [⟨"ECHCONFIG".toList, [1]⟩] := by decide +kernel

end Pem

end HostAttestation
