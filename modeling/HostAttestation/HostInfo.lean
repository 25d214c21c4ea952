import HostAttestation.Pcr.Value

/-! # Host information

The static platform identity of an attested host. In documents every field may be missing. -/

namespace HostAttestation

structure FeatureStatus where
  enabled : Bool := false
  deriving DecidableEq, Repr

structure TpmFeature where
  enabled : Bool := false
  version : String := ""
  pcrBanks : List PcrBank := []
  deriving DecidableEq, Repr

/-- The boot guard of the processor. -/
structure BootGuardFeature where
  enabled : Bool := false
  profile : String := ""
  deriving DecidableEq, Repr

structure UefiFeature where
  enabled : Bool := false
  secureBootEnabled : Bool := false
  deriving DecidableEq, Repr

structure HardwareFeatures where
  txt : Option FeatureStatus := none
  tpm : Option TpmFeature := none
  bootGuard : Option BootGuardFeature := none
  uefi : Option UefiFeature := none
  deriving DecidableEq, Repr

structure HostInfo where
  osName : String := ""
  osVersion : String := ""
  osType : String := ""
  biosName : String := ""
  biosVersion : String := ""
  vmmName : String := ""
  vmmVersion : String := ""
  processorInfo : String := ""
  processorFlags : String := ""
  hostName : String := ""
  hardwareUuid : String := ""
  socketCount : Nat := 0
  tpmEnabled : Bool := false
  tpmVersion : String := ""
  txtEnabled : Bool := false
  hardwareFeatures : HardwareFeatures := {}
  installedComponents : List String := []
  deriving DecidableEq, Repr

/-! ## Documents -/

namespace Json.Fields

def flag (key : String) : Fields ε Bool :=
  defaulted key Reader.bool false

def text (key : String) : Fields ε String :=
  defaulted key Reader.text ""

def texts (key : String) : Fields ε (List String) :=
  defaulted key (Reader.list Reader.text) []

end Json.Fields

open Json.Fields in
def FeatureStatus.fields : Json.Fields Violation FeatureStatus :=
  FeatureStatus.mk <$> flag "enabled"

def FeatureStatus.toJson (feature : FeatureStatus) : Json :=
  .object [("enabled", .bool feature.enabled)]

open Json.Fields in
def TpmFeature.fields : Json.Fields Violation TpmFeature :=
  TpmFeature.mk <$> flag "enabled" <*> text "version" <*>
    defaulted "pcr_banks" (Json.Reader.list PcrBank.read) []

def TpmFeature.toJson (feature : TpmFeature) : Json :=
  .object [("enabled", .bool feature.enabled), ("version", .string feature.version),
    ("pcr_banks", .array (feature.pcrBanks.map PcrBank.toJson))]

open Json.Fields in
def BootGuardFeature.fields : Json.Fields Violation BootGuardFeature :=
  BootGuardFeature.mk <$> flag "enabled" <*> text "profile"

def BootGuardFeature.toJson (feature : BootGuardFeature) : Json :=
  .object [("enabled", .bool feature.enabled), ("profile", .string feature.profile)]

open Json.Fields in
def UefiFeature.fields : Json.Fields Violation UefiFeature :=
  UefiFeature.mk <$> flag "enabled" <*> flag "secure_boot_enabled"

def UefiFeature.toJson (feature : UefiFeature) : Json :=
  .object [("enabled", .bool feature.enabled),
    ("secure_boot_enabled", .bool feature.secureBootEnabled)]

open Json.Fields in
def HardwareFeatures.fields : Json.Fields Violation HardwareFeatures :=
  HardwareFeatures.mk <$> Json.Fields.optional "txt" FeatureStatus.fields.read <*>
    Json.Fields.optional "tpm" TpmFeature.fields.read <*>
    Json.Fields.optional "cbnt" BootGuardFeature.fields.read <*>
    Json.Fields.optional "uefi" UefiFeature.fields.read

def HardwareFeatures.toJson (features : HardwareFeatures) : Json :=
  .object (Json.optional "txt" FeatureStatus.toJson features.txt ++
    Json.optional "tpm" TpmFeature.toJson features.tpm ++
    Json.optional "cbnt" BootGuardFeature.toJson features.bootGuard ++
    Json.optional "uefi" UefiFeature.toJson features.uefi)

namespace HostInfo

open Json.Fields in
def fields : Json.Fields Violation HostInfo :=
  HostInfo.mk <$> text "os_name" <*> text "os_version" <*> text "os_type" <*>
    text "bios_name" <*> text "bios_version" <*> text "vmm_name" <*> text "vmm_version" <*>
    text "processor_info" <*> text "processor_flags" <*> text "host_name" <*>
    text "hardware_uuid" <*> defaulted "no_of_sockets" (Json.Reader.natural 32) 0 <*>
    flag "tpm_enabled" <*> text "tpm_version" <*> flag "txt_enabled" <*>
    defaulted "hardware_features" HardwareFeatures.fields.read {} <*>
    texts "installed_components"

def read : Decoding HostInfo :=
  fields.read

def toJson (info : HostInfo) : Json :=
  .object [("os_name", .string info.osName), ("os_version", .string info.osVersion),
    ("os_type", .string info.osType), ("bios_name", .string info.biosName),
    ("bios_version", .string info.biosVersion), ("vmm_name", .string info.vmmName),
    ("vmm_version", .string info.vmmVersion), ("processor_info", .string info.processorInfo),
    ("processor_flags", .string info.processorFlags), ("host_name", .string info.hostName),
    ("hardware_uuid", .string info.hardwareUuid), ("no_of_sockets", .nat info.socketCount),
    ("tpm_enabled", .bool info.tpmEnabled), ("tpm_version", .string info.tpmVersion),
    ("txt_enabled", .bool info.txtEnabled),
    ("hardware_features", info.hardwareFeatures.toJson),
    ("installed_components", Json.texts info.installedComponents)]

end HostInfo

end HostAttestation
