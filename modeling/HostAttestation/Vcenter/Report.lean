import HostAttestation.HostManifest
import HostAttestation.Json.Tagged

/-! # Attestation reports of a hypervisor

Of a report only its reliability is examined on receipt; the values and events stay as they came
until the report is decoded. The details of an event depend on its kind, which it names itself;
of an unknown kind only the digest is kept. -/

namespace HostAttestation

namespace Vcenter

inductive EventDetail
  | softwareComponent (componentName vibName vibVersion vibVendor : String)
  | commandLine (text : String)
  | bootOptions (fileName : String)
  | bootSecurityOption (option : String)
  | unknown
  deriving DecidableEq, Repr

structure EventDetails where
  digest : Bytes
  /-- The declared hash method, which older releases leave out. -/
  method : Option String
  detail : EventDetail
  deriving DecidableEq, Repr

structure EventRecord where
  pcrIndex : Int
  details : EventDetails
  deriving DecidableEq, Repr

/-- A register value with its hash method. -/
structure DigestInfo where
  pcrNumber : Int
  method : String
  value : Bytes
  deriving DecidableEq, Repr

structure ReportContent where
  values : List DigestInfo := []
  events : List EventRecord := []
  deriving DecidableEq, Repr

/-- The content is sorted by key. -/
structure AttestationReport where
  logReliable : Bool
  content : List (String × Json)

/-! ## Documents -/

namespace EventDetail

inductive Kind
  | softwareComponent
  | commandLine
  | bootOptions
  | bootSecurityOption
  | unknown
  deriving DecidableEq, Repr

/-- The kinds that have details. -/
def Kind.detailed : List Kind :=
  [.softwareComponent, .commandLine, .bootOptions, .bootSecurityOption]

def Kind.name : Kind → String
  | .softwareComponent => "HostTpmSoftwareComponentEventDetails"
  | .commandLine => "HostTpmCommandEventDetails"
  | .bootOptions => "HostTpmOptionEventDetails"
  | .bootSecurityOption => "HostTpmBootSecurityOptionEventDetails"
  | .unknown => "Unknown"

def Kind.ofName (name : String) : Kind :=
  (detailed.find? fun kind => kind.name = name).getD .unknown

open Json.Fields in
def fields : Kind → Json.Fields Violation EventDetail
  | .softwareComponent =>
      EventDetail.softwareComponent <$> required "componentName" Json.Reader.text <*>
        required "vibName" Json.Reader.text <*> required "vibVersion" Json.Reader.text <*>
        required "vibVendor" Json.Reader.text
  | .commandLine => EventDetail.commandLine <$> required "commandLine" Json.Reader.text
  | .bootOptions => EventDetail.bootOptions <$> required "optionsFileName" Json.Reader.text
  | .bootSecurityOption =>
      EventDetail.bootSecurityOption <$> required "bootSecurityOption" Json.Reader.text
  | .unknown => constant .unknown

def kindKey : String := "_typeName"

def tagged : Json.Tagged Violation Kind EventDetail :=
  ⟨kindKey, fun name => some (Kind.ofName name),
    fun position => some (Kind.detailed[position]?.getD .unknown), fields⟩

def kind : EventDetail → Kind
  | .softwareComponent _ _ _ _ => .softwareComponent
  | .commandLine _ => .commandLine
  | .bootOptions _ => .bootOptions
  | .bootSecurityOption _ => .bootSecurityOption
  | .unknown => .unknown

def ownMembers : EventDetail → List (String × Json)
  | .softwareComponent componentName vibName vibVersion vibVendor =>
      [("componentName", .string componentName), ("vibName", .string vibName),
        ("vibVersion", .string vibVersion), ("vibVendor", .string vibVendor)]
  | .commandLine text => [("commandLine", .string text)]
  | .bootOptions fileName => [("optionsFileName", .string fileName)]
  | .bootSecurityOption option => [("bootSecurityOption", .string option)]
  | .unknown => []

def members (detail : EventDetail) : List (String × Json) :=
  (kindKey, .string detail.kind.name) :: detail.ownMembers

end EventDetail

namespace EventDetails

open Json.Fields in
def fields : Json.Fields Violation (EventDetail → EventDetails) :=
  EventDetails.mk <$> required "dataHash" Json.Reader.base64 <*>
    Json.Fields.optional "dataHashMethod" Json.Reader.text

def read : Decoding EventDetails :=
  fields.readWith EventDetail.tagged.readInside

def toJson (details : EventDetails) : Json :=
  .object ([("dataHash", Json.base64 details.digest)] ++
    Json.optional "dataHashMethod" .string details.method ++ details.detail.members)

end EventDetails

namespace EventRecord

open Json.Fields in
def fields : Json.Fields Violation EventRecord :=
  EventRecord.mk <$> required "pcrIndex" Json.Reader.int32 <*>
    required "eventDetails" EventDetails.read

def read : Decoding EventRecord :=
  fields.read

def toJson (record : EventRecord) : Json :=
  .object [("pcrIndex", .int record.pcrIndex), ("eventDetails", record.details.toJson)]

end EventRecord

namespace DigestInfo

open Json.Fields in
def fields : Json.Fields Violation DigestInfo :=
  DigestInfo.mk <$> required "pcrNumber" Json.Reader.int32 <*>
    required "digestMethod" Json.Reader.text <*> required "digestValue" Json.Reader.base64

def read : Decoding DigestInfo :=
  fields.read

def toJson (info : DigestInfo) : Json :=
  .object [("pcrNumber", .int info.pcrNumber), ("digestMethod", .string info.method),
    ("digestValue", Json.base64 info.value)]

end DigestInfo

namespace ReportContent

open Json.Fields in
def fields : Json.Fields Violation ReportContent :=
  ReportContent.mk <$> defaulted "tpmPcrValues" (Json.Reader.list DigestInfo.read) [] <*>
    defaulted "tpmEvents" (Json.Reader.list EventRecord.read) []

def read : Decoding ReportContent :=
  fields.read

def toJson (content : ReportContent) : Json :=
  .object [("tpmPcrValues", .array (content.values.map DigestInfo.toJson)),
    ("tpmEvents", .array (content.events.map EventRecord.toJson))]

end ReportContent

namespace AttestationReport

def reliabilityKey : String := "tpmLogReliable"

/-- Of members with one key the last one counts. -/
def contentOf (members : List (Option String × Json.Source)) :
    Except (Json.Fault Violation) (List (String × Json)) :=
  match Json.Source.membersJson? members with
  | none => .error .malformed
  | some members => .ok (Json.sortMembers (Json.sortedMembers members))

def fields : Json.Fields Violation (List (String × Json) → AttestationReport) :=
  AttestationReport.mk <$> Json.Fields.flag reliabilityKey

def read : Decoding AttestationReport :=
  fields.readWith contentOf

def toJson (report : AttestationReport) : Json :=
  .object ((reliabilityKey, .bool report.logReliable) :: report.content)

def decode (report : AttestationReport) : Except (Json.Fault Violation) ReportContent :=
  ReportContent.read (Json.object report.content).toSource

end AttestationReport

end Vcenter

end HostAttestation
