import HostAttestation.Net.Der
import HostAttestation.Net.Pem

/-! # Trusted certificates

A text can be trusted if every certificate in it has the structure of one: a body, an algorithm and
a signature. The body of the first version says nothing but what every certificate says; in the
third version it repeats the algorithm and may have extensions, of which the critical ones must be
known. -/

namespace HostAttestation

namespace Certificate

open Der

/-! ## Extensions -/

structure Extension where
  identifier : Bytes
  critical : Bool
  value : Bytes
  deriving DecidableEq, Repr

def Extension.ofElement? (element : Element) : Option Extension :=
  if element.tag = sequenceTag then
    match elements? element.content with
    | some [identifier, value] =>
        if [identifier, value].map Element.tag = [identifierTag, bytesTag] then
          some ⟨identifier.content, false, value.content⟩
        else none
    | some [identifier, critical, value] =>
        if [identifier, critical, value].map Element.tag =
            [identifierTag, booleanTag, bytesTag] then
          if critical.content = [0xFF] then some ⟨identifier.content, true, value.content⟩
          else if critical.content = [0x00] then some ⟨identifier.content, false, value.content⟩
          else none
        else none
    | _ => none
  else none

/-- The identifiers of all extensions of certificates begin with these bytes. -/
def family : Bytes := [0x55, 0x1D]

def keyUsage : Bytes := family ++ [15]

/-- Alternative names of the subject, basic constraints, constraints on names, where to find lists
of revoked certificates, and extended key usage. -/
def knownIdentifiers : List Bytes :=
  keyUsage :: [17, 19, 30, 31, 37].map fun number => family ++ [number]

/-- The value of a known extension is a sequence, save for the usage of the key. -/
def Extension.isFit (extension : Extension) : Bool :=
  if extension.identifier = keyUsage then true
  else if extension.identifier ∈ knownIdentifiers then
    (elements? extension.value).map tags = some [sequenceTag]
  else !extension.critical

/-- A known extension is there once at most. -/
def areFit (extensions : List Extension) : Bool :=
  extensions.all Extension.isFit &&
    knownIdentifiers.all fun identifier =>
      (extensions.map Extension.identifier).count identifier ≤ 1

/-- The extensions are in a sequence within an element of its own behind the rest of the body. -/
def hasFitExtensions : (behind : List Element) → Bool
  | [] => true
  | [extensions] =>
      extensions.tag = numberedTag 3 &&
        match (sequence? extensions.content).bind (·.mapM Extension.ofElement?) with
        | some extensions => areFit extensions
        | none => false
  | _ => false

/-! ## Bodies -/

/-- Serial number, algorithm, issuer, validity, subject and key. -/
def bodyTags : List UInt8 :=
  [integerTag, sequenceTag, sequenceTag, sequenceTag, sequenceTag, sequenceTag]

/-- The element in front of the body tells the version, counted from zero. -/
def thirdVersion : Element :=
  ⟨numberedTag 0, [integerTag, 1, 2]⟩

def isThirdVersion (algorithm : Bytes) (body : List Element) : Bool :=
  body.head? = some thirdVersion && tags ((body.drop 1).take bodyTags.length) = bodyTags &&
    (body[2]?.any fun repeated => repeated.content = algorithm) &&
    hasFitExtensions (body.drop (1 + bodyTags.length))

def isFirstVersion (body : List Element) : Bool :=
  tags body = bodyTags

/-! ## Certificates -/

/-- A signature is made of whole bytes: the first byte of its content counts the bits that are
missing from the last one. -/
def isSignature (content : Bytes) : Bool :=
  content.head? = some 0

def isCertificate (bytes : Bytes) : Bool :=
  match sequence? bytes with
  | some [body, algorithm, signature] =>
      tags [body, algorithm, signature] = [sequenceTag, sequenceTag, bitsTag] &&
        isSignature signature.content &&
        match elements? body.content with
        | some elements => isThirdVersion algorithm.content elements || isFirstVersion elements
        | none => false
  | _ => false

/-- Whether a text can be trusted. -/
def isUsable (text : String) : Bool :=
  match Pem.sections? text with
  | some sections =>
      sections.all fun part => part.label ≠ Pem.certificateLabel || isCertificate part.content
  | none => false

end Certificate

end HostAttestation
