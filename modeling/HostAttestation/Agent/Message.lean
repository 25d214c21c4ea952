import HostAttestation.Agent.Error
import HostAttestation.HostManifest

/-! # Messages of the trust agent protocol

Requests are built from texts that the caller gives and are refused if a text has not the form it
should have. An agent may report an error inside of its answer. -/

namespace HostAttestation

namespace Agent

structure QuoteRequest where
  nonce : Bytes
  pcrs : List PcrIndex
  banks : List PcrBank
  deriving DecidableEq

/-- The measurements taken at boot from the deployed manifests. -/
structure TcbMeasurements where
  measurements : List String := []
  deriving DecidableEq, Repr

structure QuoteResponse where
  timestamp : Int := 0
  clientAddress : String := ""
  errorCode : Int := 0
  errorMessage : String := ""
  /-- The attested structure, its signature and the quoted values in one blob. -/
  quote : Bytes := []
  /-- The measurement log as base64 text. -/
  eventLog : Option String := none
  tcbMeasurements : TcbMeasurements := {}
  selectedBanks : List PcrBank := []
  tagProvisioned : Bool := false
  /-- The provisioned tag as base64 text. -/
  assetTag : Option String := none
  deriving DecidableEq

structure TagRequest where
  tag : Bytes
  hardwareUuid : String
  deriving DecidableEq, Repr

def QuoteRequest.ofNonce (nonce : String) (pcrs : List PcrIndex) (banks : List PcrBank) :
    Except Error QuoteRequest :=
  match Base64.decode? nonce with
  | some bytes => .ok ⟨bytes, pcrs, banks⟩
  | none => .error (.invalidArgument .nonce)

/-- The identifier is written in its hyphenated form. -/
def TagRequest.ofTexts (hardwareUuid tag : String) : Except Error TagRequest :=
  match Uuid.parse? hardwareUuid with
  | none => .error (.invalidArgument (.hardwareUuid hardwareUuid))
  | some uuid =>
      match Base64.decode? tag with
      | none => .error (.invalidArgument .assetTag)
      | some bytes => .ok ⟨bytes, uuid.text⟩

/-- A manifest that may be sent. -/
def SoftwareManifest.check (manifest : SoftwareManifest) : Except Error SoftwareManifest :=
  match manifest.validate with
  | .ok () => .ok manifest
  | .error fault => .error (.invalidArgument (.manifest fault))

/-- The error reported inside of the answer comes first. -/
def QuoteResponse.accepted (response : QuoteResponse) : Except Error QuoteResponse :=
  if response.errorCode = 0 then .ok response
  else .error (.reported .getTpmQuote response.errorCode response.errorMessage)

/-! ## Replies -/

/-- A reply that must be a document. -/
def decodeReply (operation : Operation) (read : Decoding α) (body : Bytes) : Except Error α :=
  match (Json.parse body).read read with
  | .ok value => .ok value
  | .error fault => .error (.malformed operation fault)

/-- A reply that must be a certificate. -/
def certificateOfReply (operation : Operation) (body : Bytes) : Except Error Bytes :=
  if body = [] then .error (.decode operation [.stated "empty certificate"]) else .ok body

/-! ## Documents -/

namespace QuoteRequest

open Json.Fields in
def fields : Json.Fields Violation QuoteRequest :=
  QuoteRequest.mk <$> required "nonce" Json.Reader.base64 <*>
    required "pcrs" (Json.Reader.list PcrIndex.read) <*>
    required "pcrbanks" (Json.Reader.list PcrBank.read)

def read : Decoding QuoteRequest :=
  fields.read

def toJson (request : QuoteRequest) : Json :=
  .object [("nonce", Json.base64 request.nonce),
    ("pcrs", .array (request.pcrs.map PcrIndex.toJson)),
    ("pcrbanks", .array (request.banks.map PcrBank.toJson))]

end QuoteRequest

namespace TcbMeasurements

def fields : Json.Fields Violation TcbMeasurements :=
  TcbMeasurements.mk <$> Json.Fields.texts "tcbMeasurements"

def read : Decoding TcbMeasurements :=
  fields.read

def toJson (tcb : TcbMeasurements) : Json :=
  .object [("tcbMeasurements", Json.texts tcb.measurements)]

end TcbMeasurements

namespace QuoteResponse

open Json.Fields in
def fields : Json.Fields Violation QuoteResponse :=
  QuoteResponse.mk <$> defaulted "timestamp" Json.Reader.int64 0 <*> text "clientIp" <*>
    defaulted "errorCode" Json.Reader.int32 0 <*> text "errorMessage" <*>
    defaulted "quote" Json.Reader.base64 [] <*>
    Json.Fields.optional "eventLog" Json.Reader.text <*>
    defaulted "tcbMeasurements" TcbMeasurements.read {} <*>
    defaulted "selectedPcrBanks" (Json.Reader.list PcrBank.read) [] <*>
    flag "isTagProvisioned" <*> Json.Fields.optional "assetTag" Json.Reader.text

def read : Decoding QuoteResponse :=
  fields.read

def toJson (response : QuoteResponse) : Json :=
  .object ([("timestamp", .int response.timestamp), ("clientIp", .string response.clientAddress),
      ("errorCode", .int response.errorCode), ("errorMessage", .string response.errorMessage),
      ("quote", Json.base64 response.quote)] ++
    Json.optional "eventLog" .string response.eventLog ++
    [("tcbMeasurements", response.tcbMeasurements.toJson),
      ("selectedPcrBanks", .array (response.selectedBanks.map PcrBank.toJson)),
      ("isTagProvisioned", .bool response.tagProvisioned)] ++
    Json.optional "assetTag" .string response.assetTag)

end QuoteResponse

namespace TagRequest

open Json.Fields in
def fields : Json.Fields Violation TagRequest :=
  TagRequest.mk <$> required "tag" Json.Reader.base64 <*>
    required "hardware_uuid" Json.Reader.text

def read : Decoding TagRequest :=
  fields.read

def toJson (request : TagRequest) : Json :=
  .object [("tag", Json.base64 request.tag), ("hardware_uuid", .string request.hardwareUuid)]

end TagRequest

end Agent

end HostAttestation
