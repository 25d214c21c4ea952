import HostAttestation.Proofs.EventLog.Grouping
import HostAttestation.Proofs.EventLog.Replay
import HostAttestation.Proofs.Manifest.Values

/-! # Verified manifests

A manifest verifies exactly if every log in it belongs to a reported register and replays to the
value that is reported for it. One that is built from a list of values and a list of entries
holds what the lists say, register by register. -/

namespace HostAttestation

open EventLogEntry (eventsOf)

namespace EventLogMap

/-- The map has one entry for each register that is kept and has entries in the list, with the
events of all of them in the order of arrival, and no other entry. -/
def Groups (map : EventLogMap) (keep : PcrId → Bool) (entries : List EventLogEntry) : Prop :=
  ∀ pcr, (map.items.filter fun entry => entry.pcr = pcr).map EventLogEntry.events =
    if keep pcr ∧ pcr ∈ entries.map EventLogEntry.pcr then [eventsOf pcr entries] else []

theorem find?_ofEntries_filter (keep : PcrId → Bool) (entries : List EventLogEntry) (pcr : PcrId) :
    ((ofEntries (entries.filter fun entry => keep entry.pcr)).find? pcr).map EventLogEntry.events =
      if keep pcr ∧ pcr ∈ entries.map EventLogEntry.pcr then some (eventsOf pcr entries)
      else none := by
  have listed : pcr ∈ (entries.filter fun entry => keep entry.pcr).map EventLogEntry.pcr ↔
      keep pcr ∧ pcr ∈ entries.map EventLogEntry.pcr := by
    rw [EventLogEntry.mem_map_pcr_filter_iff, and_comm]
  rw [events_find?_ofEntries]
  by_cases kept : keep pcr ∧ pcr ∈ entries.map EventLogEntry.pcr
  · rw [if_pos (listed.mpr kept), if_pos kept, EventLogEntry.eventsOf_filter keep pcr entries kept.1]
  · rw [if_neg fun member => kept (listed.mp member), if_neg kept]

theorem eq_of_events_eq {left right : EventLogMap}
    (same : ∀ pcr, (left.find? pcr).map EventLogEntry.events =
      (right.find? pcr).map EventLogEntry.events) : left = right := by
  refine PcrTable.eq_of_find?_eq fun pcr => ?_
  have events := same pcr
  cases leftFound : left.find? pcr with
  | none =>
      rw [leftFound] at events
      exact (Option.map_eq_none_iff.mp events.symm).symm
  | some leftEntry =>
      rw [leftFound] at events
      rcases Option.map_eq_some_iff.mp events.symm with ⟨rightEntry, rightFound, equal⟩
      have leftNamed := ((PcrTable.find?_eq_some_iff left pcr leftEntry).mp leftFound).2
      have rightNamed := ((PcrTable.find?_eq_some_iff right pcr rightEntry).mp rightFound).2
      rw [rightFound]
      exact congrArg some
        (EventLogEntry.eq_of_events_eq (leftNamed.trans rightNamed.symm) equal.symm)

/-- Nothing but the grouping of the kept entries has this description. -/
theorem groups_iff (map : EventLogMap) (keep : PcrId → Bool) (entries : List EventLogEntry) :
    map.Groups keep entries ↔ map = ofEntries (entries.filter fun entry => keep entry.pcr) := by
  have perRegister : ∀ pcr,
      ((map.items.filter fun entry => entry.pcr = pcr).map EventLogEntry.events =
        if keep pcr ∧ pcr ∈ entries.map EventLogEntry.pcr then [eventsOf pcr entries] else []) ↔
      (map.find? pcr).map EventLogEntry.events =
        if keep pcr ∧ pcr ∈ entries.map EventLogEntry.pcr then some (eventsOf pcr entries)
        else none := by
    intro pcr
    rw [PcrTable.filter_items_eq]
    cases map.find? pcr <;> split <;> simp
  constructor
  · intro groups
    refine eq_of_events_eq fun pcr => ?_
    rw [find?_ofEntries_filter]
    exact (perRegister pcr).mp (groups pcr)
  · rintro rfl pcr
    exact (perRegister pcr).mpr (find?_ofEntries_filter keep entries pcr)

end EventLogMap

namespace PcrManifest

theorem verifyEntry_eq_ok_iff (values : PcrValues) (entry : EventLogEntry) :
    verifyEntry values entry = .ok () ↔
      ∃ reported, values.find? entry.pcr = some reported ∧ entry.register = reported.digest := by
  rw [verifyEntry, entry.replay_eq]
  cases values.find? entry.pcr with
  | none => simp
  | some reported =>
      by_cases equal : entry.register = reported.digest
      · simp [equal]
      · simp [equal]

theorem verifyEventLogs_eq_ok_iff (manifest : PcrManifest) :
    manifest.verifyEventLogs = .ok () ↔
      ∀ entry ∈ manifest.eventLogs.items, ∃ reported,
        manifest.values.find? entry.pcr = some reported ∧ entry.register = reported.digest := by
  rw [verifyEventLogs, Outcome.forM_eq_ok_iff]
  exact forall₂_congr fun entry _ => verifyEntry_eq_ok_iff manifest.values entry

/-- Every kept register that has entries is reported with the value that its events give. -/
def Replays (values : List PcrValue) (keep : PcrId → Bool) (entries : List EventLogEntry) : Prop :=
  ∀ pcr, keep pcr → pcr ∈ entries.map EventLogEntry.pcr →
    ∃ value ∈ values, value.pcr = pcr ∧
      value.digest = Replay.register pcr.bank ((eventsOf pcr entries).map Event.measurement)

/-- The manifest holds exactly these values, and the logs of the kept registers. -/
structure Holds (manifest : PcrManifest) (values : List PcrValue) (keep : PcrId → Bool)
    (entries : List EventLogEntry) : Prop where
  values : manifest.values.items.Perm values
  logs : manifest.eventLogs.Groups keep entries

theorem ofValues_eq_ok_iff (values : List PcrValue) (keep : PcrId → Bool)
    (entries : List EventLogEntry) (manifest : PcrManifest) :
    ofValues values (.ofEntries (entries.filter fun entry => keep entry.pcr)) = .ok manifest ↔
      (values.map PcrValue.pcr).Nodup ∧ manifest.Holds values keep entries := by
  rw [ofValues_eq_ok_iff_perm, ← EventLogMap.groups_iff]
  refine and_congr_right fun _ => ?_
  constructor
  · rintro ⟨same, groups⟩
    exact ⟨same, groups⟩
  · rintro ⟨same, groups⟩
    exact ⟨same, groups⟩

theorem verifyEventLogs_eq_ok_iff_of_holds {manifest : PcrManifest} {values : List PcrValue}
    {keep : PcrId → Bool} {entries : List EventLogEntry}
    (holds : manifest.Holds values keep entries) :
    manifest.verifyEventLogs = .ok () ↔ Replays values keep entries := by
  have found : ∀ pcr reported, manifest.values.find? pcr = some reported ↔
      reported ∈ values ∧ reported.pcr = pcr := by
    intro pcr reported
    rw [PcrTable.find?_eq_some_iff, holds.values.mem_iff]
  have logged : ∀ pcr, ((manifest.eventLogs.find? pcr).map EventLogEntry.events) =
      if keep pcr ∧ pcr ∈ entries.map EventLogEntry.pcr then some (eventsOf pcr entries)
      else none := by
    rw [(EventLogMap.groups_iff _ keep entries).mp holds.logs]
    exact EventLogMap.find?_ofEntries_filter keep entries
  rw [verifyEventLogs_eq_ok_iff]
  constructor
  · intro verified pcr kept listed
    have events := logged pcr
    rw [if_pos ⟨kept, listed⟩] at events
    rcases Option.map_eq_some_iff.mp events with ⟨entry, entryFound, entryEvents⟩
    rcases (PcrTable.find?_eq_some_iff _ _ _).mp entryFound with ⟨member, rfl⟩
    rcases verified entry member with ⟨reported, reportedFound, replayed⟩
    rcases (found _ _).mp reportedFound with ⟨reportedMember, named⟩
    exact ⟨reported, reportedMember, named, by rw [← replayed, EventLogEntry.register, entryEvents]⟩
  · intro replays entry member
    have entryFound := (PcrTable.mem_items_iff _ entry).mp member
    have events := logged entry.pcr
    rw [entryFound, Option.map_some] at events
    split at events
    next kept =>
      rcases replays entry.pcr kept.1 kept.2 with ⟨reported, reportedMember, named, digest⟩
      refine ⟨reported, (found _ _).mpr ⟨reportedMember, named⟩, ?_⟩
      rw [digest, EventLogEntry.register, Option.some.inj events]
    next => cases events

/-- What values and entries must be like to make a verified manifest. -/
structure Consistent (values : List PcrValue) (keep : PcrId → Bool)
    (entries : List EventLogEntry) : Prop where
  distinct : (values.map PcrValue.pcr).Nodup
  replayed : Replays values keep entries

theorem verified_iff (values : List PcrValue) (keep : PcrId → Bool) (entries : List EventLogEntry)
    (manifest : PcrManifest) :
    (ofValues values (.ofEntries (entries.filter fun entry => keep entry.pcr)) = .ok manifest ∧
        manifest.verifyEventLogs = .ok ()) ↔
      Consistent values keep entries ∧ manifest.Holds values keep entries := by
  rw [ofValues_eq_ok_iff]
  constructor
  · rintro ⟨⟨distinct, holds⟩, verified⟩
    exact ⟨⟨distinct, (verifyEventLogs_eq_ok_iff_of_holds holds).mp verified⟩, holds⟩
  · rintro ⟨⟨distinct, replayed⟩, holds⟩
    exact ⟨⟨distinct, holds⟩, (verifyEventLogs_eq_ok_iff_of_holds holds).mpr replayed⟩

/-- Values of distinct registers and any entries are held by some manifest. -/
theorem exists_holds {values : List PcrValue} (distinct : (values.map PcrValue.pcr).Nodup)
    (keep : PcrId → Bool) (entries : List EventLogEntry) :
    ∃ manifest : PcrManifest, manifest.Holds values keep entries := by
  rcases PcrValues.exists_ofList_eq_ok distinct with ⟨collected, ofList⟩
  exact ⟨⟨collected, _⟩, ((PcrValues.ofList_eq_ok_iff values collected).mp ofList).2,
    (EventLogMap.groups_iff _ keep entries).mpr rfl⟩

end PcrManifest

end HostAttestation
