import HostAttestation.EventLog.Map

/-! # PCR manifests

The register values that a platform reports, and the event logs that produced them. -/

namespace HostAttestation

abbrev PcrValues := PcrTable PcrValue PcrValue.pcr

structure PcrManifest where
  values : PcrValues
  eventLogs : EventLogMap
  deriving DecidableEq

/-- The digest of the concatenation of values, in the given order. -/
def PcrValue.digestAll (algorithm : HashAlgorithm) (values : List PcrValue) : Bytes :=
  algorithm.digest (values.flatMap PcrValue.digest)

namespace PcrValues

/-- A register may be reported only once. -/
def add (values : PcrValues) (value : PcrValue) : Except Violation PcrValues :=
  match values.find? value.pcr with
  | some _ => .error (.duplicateValue value.pcr)
  | none => .ok (values.insert (fun old _ => old) (fun _ _ => rfl) value)

def ofList (list : List PcrValue) : Except Violation PcrValues :=
  list.foldlM add .empty

end PcrValues

namespace PcrManifest

def ofValues (list : List PcrValue) (eventLogs : EventLogMap) : Except Violation PcrManifest :=
  (PcrValues.ofList list).map fun values => ⟨values, eventLogs⟩

/-- Replays one log and compares the result with the reported value of its register. -/
def verifyEntry (values : PcrValues) (entry : EventLogEntry) : Except Violation Unit :=
  match values.find? entry.pcr with
  | none => .error (.missingValue entry.pcr)
  | some reported =>
      match entry.replay with
      | .error violation => .error violation
      | .ok replayed =>
          if replayed = reported.digest then .ok ()
          else .error (.replayMismatch entry.pcr reported.digest replayed)

def verifyEventLogs (manifest : PcrManifest) : Except Violation Unit :=
  manifest.eventLogs.items.forM (verifyEntry manifest.values)

/-- The digest over all values in the order of the registers. -/
def digest (algorithm : HashAlgorithm) (manifest : PcrManifest) : Bytes :=
  PcrValue.digestAll algorithm manifest.values.items

/-! ## Documents -/

def fields :
    Json.Fields Violation (List (PcrBank × List PcrValue) × EventLogMap) :=
  Prod.mk <$> .required "pcrs" (PcrBank.readGroups (Json.Reader.list PcrValue.read)) <*>
    .defaulted "event_logs" EventLogMap.read .empty

/-- Every value must be listed under its own bank. -/
def ofGroups (groups : List (PcrBank × List PcrValue)) (eventLogs : EventLogMap) :
    Except Violation PcrManifest := do
  let lists ← groups.mapM fun group => PcrBank.itemsOfGroup PcrValue.pcr group.1 group.2
  ofValues lists.flatten eventLogs

def read : Decoding PcrManifest :=
  Json.Reader.checked fields.read fun (groups, eventLogs) => ofGroups groups eventLogs

def toJson (manifest : PcrManifest) : Json :=
  .object [("pcrs", PcrTable.toJson PcrValue.toJson manifest.values),
    ("event_logs", manifest.eventLogs.toJson)]

end PcrManifest

end HostAttestation
