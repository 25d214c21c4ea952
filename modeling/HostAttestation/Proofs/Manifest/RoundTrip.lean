import HostAttestation.HostManifest
import HostAttestation.Proofs.Bytes.Base64
import HostAttestation.Proofs.Manifest.Decoding
import HostAttestation.Proofs.Pcr.RoundTrip

/-! # Manifests that are written

The document of a manifest is read as the manifest itself: the events in their order, entries
without events, empty and absent members, and every text. Main statement: the only thing that can
keep it from being read is a number of sockets that does not fit into its field. -/

namespace HostAttestation

open Json (Returns)
open Json.Fields (Restores)

/-! ## Event logs -/

theorem Event.returns_read (event : Event) :
    Returns (Event.read event.toJson.toSource) True event := by
  have restores : Restores fields _ _ _ event :=
    (Restores.required "type_id" (Json.Reader.returns_text event.typeId)).map mk
      |>.seq (.required "type_name" (Json.Reader.returns_text event.typeName))
      |>.seq (.unlessEmpty "tags" Json.Reader.returns_texts event.tags)
      |>.seq (.required "measurement"
        (Json.Reader.returns_encoded (Hex.decode?_encode event.measurement)))
  exact (restores.read (by decide)).congr (by simp)

theorem EventLogEntry.returns_read (entry : EventLogEntry) :
    Returns (EventLogEntry.read entry.toJson.toSource) True entry := by
  have events := Json.Reader.returns_list entry.events fun event _ => event.returns_read
  have restores := (Restores.required "pcr" entry.pcr.returns_read).map Prod.mk
    |>.seq (.member (List.mem_cons_self : "tpm_events" ∈ ["tpm_events", "events"]) events (.ok []))
  refine Returns.congr (Json.Reader.returns_checked (restores.read (by decide)) ?_) (by simp)
  exact (ofEvents_eq_ok_iff entry.pcr entry.events entry).mpr ⟨rfl, rfl⟩

theorem EventLogMap.ofGroups_groups (map : EventLogMap) : ofGroups map.groups = .ok map := by
  have distinct := PcrTable.nodup_map_items map
  rw [ofGroups_eq map.inOrder_groups.own, map.items_groups,
    (PcrId.again?_eq_none_iff .nil _).mpr distinct]
  exact congrArg Except.ok (PcrTable.eq_of_items_perm (ofEntries_perm distinct))

theorem EventLogMap.returns_read (map : EventLogMap) :
    Returns (EventLogMap.read map.toJson.toSource) True map :=
  Json.Reader.returns_checked (PcrTable.returns_readGroups EventLogEntry.returns_read map)
    map.ofGroups_groups

/-! ## Register values -/

theorem PcrManifest.ofGroups_groups (manifest : PcrManifest) :
    ofGroups manifest.values.groups manifest.eventLogs = .ok manifest := by
  refine (ofGroups_eq_ok_iff _ _ _).mpr ⟨manifest.values.inOrder_groups.own, ?_⟩
  rw [manifest.values.items_groups, ofValues_eq_ok_iff_perm]
  exact ⟨PcrTable.nodup_map_items manifest.values, .refl _, rfl⟩

theorem PcrManifest.returns_read (manifest : PcrManifest) :
    Returns (PcrManifest.read manifest.toJson.toSource) True manifest := by
  have values := PcrTable.returns_readGroups PcrValue.returns_read manifest.values
  have restores := (Restores.required "pcrs" values).map Prod.mk
    |>.seq (.defaulted "event_logs" (EventLogMap.returns_read manifest.eventLogs) .empty)
  refine Returns.congr (Json.Reader.returns_checked (restores.read (by decide)) ?_) (by simp)
  exact manifest.ofGroups_groups

/-! ## Host information -/

theorem Json.Fields.Restores.flag {ε : Type} (key : String) (value : Bool) :
    Restores (ε := ε) (Json.Fields.flag key) [key] [(key, .bool value)] True value :=
  .defaulted key (Json.Reader.returns_bool value) false

theorem Json.Fields.Restores.text {ε : Type} (key : String) (value : String) :
    Restores (ε := ε) (Json.Fields.text key) [key] [(key, .string value)] True value :=
  .defaulted key (Json.Reader.returns_text value) ""

theorem FeatureStatus.returns_read (feature : FeatureStatus) :
    Returns (FeatureStatus.fields.read feature.toJson.toSource) True feature :=
  ((Restores.flag "enabled" feature.enabled).map mk).read (by decide)

theorem TpmFeature.returns_read (feature : TpmFeature) :
    Returns (TpmFeature.fields.read feature.toJson.toSource) True feature := by
  have restores : Restores fields _ _ _ feature :=
    (Restores.flag "enabled" feature.enabled).map mk
      |>.seq (.text "version" feature.version)
      |>.seq (.defaulted "pcr_banks" (PcrBank.returns_list feature.pcrBanks) [])
  exact (restores.read (by decide)).congr (by simp)

theorem BootGuardFeature.returns_read (feature : BootGuardFeature) :
    Returns (BootGuardFeature.fields.read feature.toJson.toSource) True feature := by
  have restores : Restores fields _ _ _ feature :=
    (Restores.flag "enabled" feature.enabled).map mk
      |>.seq (.text "profile" feature.profile)
  exact (restores.read (by decide)).congr (by simp)

theorem UefiFeature.returns_read (feature : UefiFeature) :
    Returns (UefiFeature.fields.read feature.toJson.toSource) True feature := by
  have restores : Restores fields _ _ _ feature :=
    (Restores.flag "enabled" feature.enabled).map mk
      |>.seq (.flag "secure_boot_enabled" feature.secureBootEnabled)
  exact (restores.read (by decide)).congr (by simp)

theorem HardwareFeatures.returns_read (features : HardwareFeatures) :
    Returns (HardwareFeatures.fields.read features.toJson.toSource) True features := by
  have restores : Restores fields _ _ _ features :=
    (Restores.optional "txt" FeatureStatus.returns_read nofun features.txt).map mk
      |>.seq (.optional "tpm" TpmFeature.returns_read nofun features.tpm)
      |>.seq (.optional "cbnt" BootGuardFeature.returns_read nofun features.bootGuard)
      |>.seq (.optional "uefi" UefiFeature.returns_read nofun features.uefi)
  exact (restores.read (by decide)).congr (by simp)

theorem HostInfo.returns_read (info : HostInfo) :
    Returns (HostInfo.read info.toJson.toSource) (info.socketCount < Json.capacity 32) info := by
  have restores : Restores fields _ _ _ info :=
    (Restores.text "os_name" info.osName).map mk
      |>.seq (.text "os_version" info.osVersion)
      |>.seq (.text "os_type" info.osType)
      |>.seq (.text "bios_name" info.biosName)
      |>.seq (.text "bios_version" info.biosVersion)
      |>.seq (.text "vmm_name" info.vmmName)
      |>.seq (.text "vmm_version" info.vmmVersion)
      |>.seq (.text "processor_info" info.processorInfo)
      |>.seq (.text "processor_flags" info.processorFlags)
      |>.seq (.text "host_name" info.hostName)
      |>.seq (.text "hardware_uuid" info.hardwareUuid)
      |>.seq (.defaulted "no_of_sockets" (Json.Reader.returns_natural 32 info.socketCount) 0)
      |>.seq (.flag "tpm_enabled" info.tpmEnabled)
      |>.seq (.text "tpm_version" info.tpmVersion)
      |>.seq (.flag "txt_enabled" info.txtEnabled)
      |>.seq (.defaulted "hardware_features" info.hardwareFeatures.returns_read {})
      |>.seq (.defaulted "installed_components"
        (Json.Reader.returns_texts info.installedComponents) [])
  -- the members are put in a row first, since unfolding nested sums doubles with every member
  refine ((restores.of_eq ?_).read (by decide)).congr (by simp)
  simp only [List.cons_append, List.nil_append]

/-! ## Whole manifests -/

theorem Json.Reader.returns_base64 {ε : Type} (bytes : Bytes) :
    Returns (Json.Reader.base64 (ε := ε) (Json.base64 bytes).toSource) True bytes :=
  returns_encoded (Base64.decodeUnpadded?_encode bytes)

theorem HostManifest.returns_read (manifest : HostManifest) :
    Returns (HostManifest.read manifest.toJson.toSource)
      (manifest.hostInfo.socketCount < Json.capacity 32) manifest := by
  have restores : Restores fields _ _ _ manifest :=
    (Restores.required "host_info" manifest.hostInfo.returns_read).map mk
      |>.seq (.required "pcr_manifest" manifest.pcrManifest.returns_read)
      |>.seq (.required "quote_digest" (Json.Reader.returns_text manifest.quoteDigest))
      |>.seq (.optional "aik_certificate" Json.Reader.returns_base64 nofun manifest.aikCertificate)
      |>.seq (.optional "binding_key_certificate" Json.Reader.returns_base64 nofun
        manifest.bindingKeyCertificate)
      |>.seq (.optional "asset_tag_digest" Json.Reader.returns_text nofun manifest.assetTagDigest)
      |>.seq (.unlessEmpty "measurement_xmls" Json.Reader.returns_texts manifest.measurementXmls)
  exact (restores.read (by decide)).congr (by simp)

/-- Every manifest is read back. Its number of sockets must be one that the field can hold, which
has 32 bits. -/
theorem HostManifest.read_written_iff (manifest : HostManifest) :
    manifest.toJson.written.read read = .ok manifest ↔
      manifest.hostInfo.socketCount < Json.capacity 32 :=
  manifest.returns_read.written.eq_ok_iff

end HostAttestation
