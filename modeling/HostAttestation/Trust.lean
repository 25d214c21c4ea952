import HostAttestation.Bytes.Utf8
import HostAttestation.Connector.Error
import HostAttestation.Url.Parser

/-! # Trust material

The authentication service whose tokens are accepted, and the certificates of the authorities that
servers are checked against. Certificates come from the files of a directory, in the order of
their names whatever order the directory lists them in. -/

namespace HostAttestation

structure TrustMaterial where
  serviceUrl : Option Url := none
  certificates : List String := []
  deriving DecidableEq

/-- A file, of which the bytes may be out of reach, or something else. -/
inductive DirectoryItem
  | file (bytes : Option Bytes)
  | other
  deriving DecidableEq, Repr

namespace DirectoryItem

def isFile : DirectoryItem → Bool
  | file _ => true
  | other => false

def bytes? : DirectoryItem → Option Bytes
  | file bytes => bytes
  | other => none

/-- What was read from a file stands for the file. -/
def ofContent : Option Bytes → DirectoryItem
  | some bytes => file (some bytes)
  | none => other

instance : Coe (Option Bytes) DirectoryItem := ⟨ofContent⟩

end DirectoryItem

/-- What stands under a name of any bytes. -/
structure DirectoryEntry where
  name : Bytes
  content : DirectoryItem
  deriving DecidableEq, Repr

namespace DirectoryEntry

def dot : UInt8 := 0x2E

/-- What follows the last dot of a name, unless the name begins with that dot. -/
def extension? (name : Bytes) : Option Bytes :=
  match name.reverse.dropWhile (· ≠ dot) with
  | _ :: _ :: _ => some (name.reverse.takeWhile (· ≠ dot)).reverse
  | _ => none

def certificateExtensions : List Bytes :=
  [Utf8.encode "pem", Utf8.encode "crt"]

def isCertificate (entry : DirectoryEntry) : Bool :=
  entry.content.isFile && (extension? entry.name).any certificateExtensions.contains

/-- Names are ordered byte by byte. -/
def precedes (left right : DirectoryEntry) : Bool :=
  left.name ≤ right.name

/-- The files of a directory that hold certificates, in the order of their names. -/
def certificateFiles (entries : List DirectoryEntry) : List DirectoryEntry :=
  (entries.filter isCertificate).mergeSort precedes

end DirectoryEntry

namespace TrustMaterial

open Connector (ConfigurationFault)

def readFile (entry : DirectoryEntry) : Except ConfigurationFault String :=
  match entry.content.bytes?.bind Utf8.decode? with
  | some text => .ok text
  | none => .error (.certificateFile entry.name)

/-- Adds the certificates of a directory, which may be unreadable. -/
def loadDirectory (trust : TrustMaterial) (listing : Option (List DirectoryEntry)) :
    Except ConfigurationFault TrustMaterial :=
  match listing with
  | none => .error .certificateDirectory
  | some entries => do
      let texts ← (DirectoryEntry.certificateFiles entries).mapM readFile
      pure { trust with certificates := trust.certificates ++ texts }

end TrustMaterial

/-- Where trust material is found. -/
structure TrustSettings where
  directory : Option String := none
  serviceUrl : Option String := none
  deriving DecidableEq, Repr

/-- Examines the address of the service before any directory is read. -/
def TrustSettings.load (settings : TrustSettings)
    (listing : String → Option (List DirectoryEntry)) : Except Connector.Error TrustMaterial :=
  let material : Except Connector.ConfigurationFault TrustMaterial := do
    let serviceUrl ←
      match settings.serviceUrl with
      | none => pure none
      | some text =>
          match Url.parse? text with
          | some url => pure (some url)
          | none => throw .serviceUrl
    let trust : TrustMaterial := ⟨serviceUrl, []⟩
    match settings.directory with
    | none => pure trust
    | some directory => trust.loadDirectory (listing directory)
  material.mapError .configuration

end HostAttestation
