import HostAttestation.HostInfo

/-! # Hosts and clusters known to a vCenter -/

namespace HostAttestation

namespace Vcenter

structure HostReference where
  /-- The identifier of the managed object. -/
  host : String
  name : String
  connectionState : String
  powerState : String
  deriving DecidableEq, Repr

structure ClusterReference where
  cluster : String
  name : String
  deriving DecidableEq, Repr

structure HostSummary where
  name : String := ""
  uuid : String := ""
  productName : String := ""
  productVersion : String := ""
  productBuild : String := ""
  biosVendor : String := ""
  biosVersion : String := ""
  cpuModel : String := ""
  cpuFeatures : List String := []
  cpuPackages : Nat := 0
  tpmPresent : Bool := false
  tpmVersion : String := ""
  txtEnabled : Bool := false
  deriving DecidableEq, Repr

/-- The hypervisor is the operating system, and its build belongs to its version. -/
def HostSummary.hostInfo (summary : HostSummary) : HostInfo :=
  { osName := summary.productName
    osVersion := summary.productVersion
    osType := "vmware"
    biosName := summary.biosVendor
    biosVersion := summary.biosVersion
    vmmName := summary.productName
    vmmVersion := summary.productVersion ++ "-" ++ summary.productBuild
    processorInfo := summary.cpuModel
    processorFlags := String.intercalate " " summary.cpuFeatures
    hostName := summary.name
    hardwareUuid := summary.uuid
    socketCount := summary.cpuPackages
    tpmEnabled := summary.tpmPresent
    tpmVersion := summary.tpmVersion
    txtEnabled := summary.txtEnabled
    hardwareFeatures :=
      { txt := some ⟨summary.txtEnabled⟩
        tpm := if summary.tpmPresent then some ⟨true, summary.tpmVersion, []⟩ else none } }

/-! ## Documents -/

namespace HostReference

open Json.Fields in
def fields : Json.Fields Violation HostReference :=
  HostReference.mk <$> required "host" Json.Reader.text <*> required "name" Json.Reader.text <*>
    text "connection_state" <*> text "power_state"

def read : Decoding HostReference :=
  fields.read

def toJson (reference : HostReference) : Json :=
  .object [("host", .string reference.host), ("name", .string reference.name),
    ("connection_state", .string reference.connectionState),
    ("power_state", .string reference.powerState)]

end HostReference

namespace ClusterReference

open Json.Fields in
def fields : Json.Fields Violation ClusterReference :=
  ClusterReference.mk <$> required "cluster" Json.Reader.text <*>
    required "name" Json.Reader.text

def read : Decoding ClusterReference :=
  fields.read

def toJson (reference : ClusterReference) : Json :=
  .object [("cluster", .string reference.cluster), ("name", .string reference.name)]

end ClusterReference

namespace HostSummary

open Json.Fields in
def fields : Json.Fields Violation HostSummary :=
  HostSummary.mk <$> text "name" <*> text "uuid" <*> text "product_name" <*>
    text "product_version" <*> text "product_build" <*> text "bios_vendor" <*>
    text "bios_version" <*> text "cpu_model" <*> texts "cpu_features" <*>
    defaulted "num_cpu_packages" (Json.Reader.natural 32) 0 <*> flag "tpm_present" <*>
    text "tpm_version" <*> flag "txt_enabled"

def read : Decoding HostSummary :=
  fields.read

def toJson (summary : HostSummary) : Json :=
  .object [("name", .string summary.name), ("uuid", .string summary.uuid),
    ("product_name", .string summary.productName),
    ("product_version", .string summary.productVersion),
    ("product_build", .string summary.productBuild),
    ("bios_vendor", .string summary.biosVendor), ("bios_version", .string summary.biosVersion),
    ("cpu_model", .string summary.cpuModel), ("cpu_features", Json.texts summary.cpuFeatures),
    ("num_cpu_packages", .nat summary.cpuPackages), ("tpm_present", .bool summary.tpmPresent),
    ("tpm_version", .string summary.tpmVersion), ("txt_enabled", .bool summary.txtEnabled)]

end HostSummary

end Vcenter

end HostAttestation
