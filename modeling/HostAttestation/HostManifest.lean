import HostAttestation.Bytes.Base64
import HostAttestation.HostInfo
import HostAttestation.PcrManifest

/-! # Host manifests

The vendor neutral result of one attestation: who the host is, what its registers hold, and the
certificates and digests that belong to the quote. -/

namespace HostAttestation

structure HostManifest where
  hostInfo : HostInfo
  pcrManifest : PcrManifest
  /-- Hexadecimal digest over the quoted values. -/
  quoteDigest : String
  aikCertificate : Option Bytes
  bindingKeyCertificate : Option Bytes
  assetTagDigest : Option String
  measurementXmls : List String
  deriving DecidableEq

/-- Bytes inside a document. -/
def Json.Reader.base64 : Json.Reader ε Bytes :=
  encoded Base64.decodeUnpadded?

def Json.base64 (bytes : Bytes) : Json :=
  .string (Base64.encode bytes)

namespace HostManifest

open Json.Fields in
def fields : Json.Fields Violation HostManifest :=
  HostManifest.mk <$> required "host_info" HostInfo.read <*>
    required "pcr_manifest" PcrManifest.read <*>
    required "quote_digest" Json.Reader.text <*>
    Json.Fields.optional "aik_certificate" Json.Reader.base64 <*>
    Json.Fields.optional "binding_key_certificate" Json.Reader.base64 <*>
    Json.Fields.optional "asset_tag_digest" Json.Reader.text <*>
    texts "measurement_xmls"

def read : Decoding HostManifest :=
  fields.read

def toJson (manifest : HostManifest) : Json :=
  .object ([("host_info", manifest.hostInfo.toJson),
      ("pcr_manifest", manifest.pcrManifest.toJson),
      ("quote_digest", .string manifest.quoteDigest)] ++
    Json.optional "aik_certificate" Json.base64 manifest.aikCertificate ++
    Json.optional "binding_key_certificate" Json.base64 manifest.bindingKeyCertificate ++
    Json.optional "asset_tag_digest" .string manifest.assetTagDigest ++
    Json.unlessEmpty "measurement_xmls" Json.texts manifest.measurementXmls)

end HostManifest

end HostAttestation
