import HostAttestation.HostInfo
import HostAttestation.Json.Tagged
import HostAttestation.Text.Uuid

/-! # Software manifests

The files that an agent has to measure, and what it measured. An entry names its kind; a measured
entry carries the digest beside the members of the entry. -/

namespace HostAttestation

namespace Agent

inductive ManifestEntry
  | directory (path : String) (included excluded filterType : Option String)
  | file (path : String) (searchType : Option String)
  | symlink (path : String) (searchType : Option String)
  deriving DecidableEq, Repr

structure SoftwareManifest where
  label : String
  uuid : String
  digestAlgorithm : String
  entries : List ManifestEntry
  deriving DecidableEq, Repr

structure MeasuredEntry where
  entry : ManifestEntry
  /-- Hexadecimal digest of the entry. -/
  digest : String
  deriving DecidableEq, Repr

structure Measurement where
  label : String
  uuid : String
  digestAlgorithm : String
  entries : List MeasuredEntry
  cumulativeHash : String
  deriving DecidableEq, Repr

def defaultDigestAlgorithm : String := "SHA384"

/-- What keeps a manifest from being sent. -/
inductive ManifestFault
  | blankLabel
  | invalidUuid (uuid : String)
  deriving DecidableEq, Repr

def SoftwareManifest.validate (manifest : SoftwareManifest) : Except ManifestFault Unit :=
  if Text.trimChars manifest.label.toList = [] then .error .blankLabel
  else if (Uuid.parse? manifest.uuid).isNone then .error (.invalidUuid manifest.uuid)
  else .ok ()

/-! ## Documents -/

namespace ManifestEntry

/-- The kinds of entries by the word that names them. -/
inductive Kind
  | directory
  | file
  | symlink
  deriving DecidableEq, Repr

def Kind.all : List Kind := [.directory, .file, .symlink]

def Kind.name : Kind → String
  | .directory => "dir"
  | .file => "file"
  | .symlink => "symlink"

def Kind.parse? (name : String) : Option Kind :=
  all.find? fun kind => kind.name = name

open Json.Fields in
def fields : Kind → Json.Fields Violation ManifestEntry
  | .directory =>
      ManifestEntry.directory <$> required "path" Json.Reader.text <*>
        Json.Fields.optional "include" Json.Reader.text <*>
        Json.Fields.optional "exclude" Json.Reader.text <*>
        Json.Fields.optional "filter_type" Json.Reader.text
  | .file =>
      ManifestEntry.file <$> required "path" Json.Reader.text <*>
        Json.Fields.optional "search_type" Json.Reader.text
  | .symlink =>
      ManifestEntry.symlink <$> required "path" Json.Reader.text <*>
        Json.Fields.optional "search_type" Json.Reader.text

def kindKey : String := "type"

def tagged : Json.Tagged Violation Kind ManifestEntry :=
  ⟨kindKey, Kind.parse?, fun position => Kind.all[position]?, fields⟩

def read : Decoding ManifestEntry :=
  tagged.read

def members : ManifestEntry → List (String × Json)
  | .directory path included excluded filterType =>
      [(kindKey, .string Kind.directory.name), ("path", .string path)] ++
        Json.optional "include" .string included ++ Json.optional "exclude" .string excluded ++
        Json.optional "filter_type" .string filterType
  | .file path searchType =>
      [(kindKey, .string Kind.file.name), ("path", .string path)] ++
        Json.optional "search_type" .string searchType
  | .symlink path searchType =>
      [(kindKey, .string Kind.symlink.name), ("path", .string path)] ++
        Json.optional "search_type" .string searchType

def toJson (entry : ManifestEntry) : Json :=
  .object entry.members

end ManifestEntry

namespace SoftwareManifest

open Json.Fields in
def fields : Json.Fields Violation SoftwareManifest :=
  SoftwareManifest.mk <$> required "label" Json.Reader.text <*>
    required "uuid" Json.Reader.text <*>
    defaulted "digestAlg" Json.Reader.text defaultDigestAlgorithm <*>
    defaulted "entries" (Json.Reader.list ManifestEntry.read) []

def read : Decoding SoftwareManifest :=
  fields.read

def toJson (manifest : SoftwareManifest) : Json :=
  .object [("label", .string manifest.label), ("uuid", .string manifest.uuid),
    ("digestAlg", .string manifest.digestAlgorithm),
    ("entries", .array (manifest.entries.map ManifestEntry.toJson))]

end SoftwareManifest

namespace MeasuredEntry

def fields : Json.Fields Violation (ManifestEntry → MeasuredEntry) :=
  (fun digest entry => ⟨entry, digest⟩) <$> Json.Fields.required "value" Json.Reader.text

def read : Decoding MeasuredEntry :=
  fields.readWith ManifestEntry.tagged.readInside

def toJson (measured : MeasuredEntry) : Json :=
  .object (measured.entry.members ++ [("value", .string measured.digest)])

end MeasuredEntry

namespace Measurement

open Json.Fields in
def fields : Json.Fields Violation Measurement :=
  Measurement.mk <$> required "label" Json.Reader.text <*> required "uuid" Json.Reader.text <*>
    required "digestAlg" Json.Reader.text <*>
    defaulted "entries" (Json.Reader.list MeasuredEntry.read) [] <*>
    required "cumulativeHash" Json.Reader.text

def read : Decoding Measurement :=
  fields.read

def toJson (measurement : Measurement) : Json :=
  .object [("label", .string measurement.label), ("uuid", .string measurement.uuid),
    ("digestAlg", .string measurement.digestAlgorithm),
    ("entries", .array (measurement.entries.map MeasuredEntry.toJson)),
    ("cumulativeHash", .string measurement.cumulativeHash)]

end Measurement

end Agent

end HostAttestation
