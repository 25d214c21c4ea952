import HostAttestation.EventLog.Replay

/-! # Event logs by register

Entries of one register are merged, their events kept in the order of arrival. -/

namespace HostAttestation

abbrev EventLogMap := PcrTable EventLogEntry EventLogEntry.pcr

namespace EventLogMap

def add (map : EventLogMap) (entry : EventLogEntry) : EventLogMap :=
  map.insert EventLogEntry.merge EventLogEntry.pcr_merge entry

def ofEntries (entries : List EventLogEntry) : EventLogMap :=
  entries.foldl add .empty

/-- The entries of a document: each under its own bank, and none for a register that was already
seen. -/
def checkGroup (bank : PcrBank) : (seen : List EventLogEntry) → List EventLogEntry →
    Except Violation (List EventLogEntry)
  | seen, [] => .ok seen
  | seen, entry :: rest =>
      if entry.pcr.bank ≠ bank then .error (.bankMismatch entry.pcr bank)
      else if seen.any fun other => other.pcr = entry.pcr then
        .error (.duplicateEventLog entry.pcr)
      else checkGroup bank (seen ++ [entry]) rest

def ofGroups (groups : List (PcrBank × List EventLogEntry)) : Except Violation EventLogMap := do
  let entries ← groups.foldlM (fun seen group => checkGroup group.1 seen group.2) []
  pure (ofEntries entries)

def read : Decoding EventLogMap :=
  Json.Reader.checked (PcrBank.readGroups (Json.Reader.list EventLogEntry.read)) ofGroups

def toJson (map : EventLogMap) : Json :=
  PcrTable.toJson EventLogEntry.toJson map

end EventLogMap

end HostAttestation
