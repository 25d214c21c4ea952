import HostAttestation.Proofs.EventLog.Groups

/-! # Conservation of events

Grouping entries moves every event to the entry of its register and does nothing else: no event is
lost, repeated or put before an earlier one of the same register. Entries that are grouped after
others continue them, register by register. -/

namespace HostAttestation

namespace EventLogMap

open EventLogEntry (eventsOf)

theorem mem_map_pcr_ofEntries_iff (entries : List EventLogEntry) (pcr : PcrId) :
    pcr ∈ (ofEntries entries).items.map EventLogEntry.pcr ↔
      pcr ∈ entries.map EventLogEntry.pcr := by
  constructor
  · intro listed
    rcases List.mem_map.mp listed with ⟨entry, member, rfl⟩
    exact ((mem_ofEntries_iff entries entry).mp member).1
  · intro listed
    have member := (mem_ofEntries_iff entries (.gathered pcr entries)).mpr ⟨listed, rfl⟩
    exact List.mem_map.mpr ⟨_, member, rfl⟩

/-- A register that only one of the lists has keeps its events. -/
theorem events_find?_ofEntries_append (entries others : List EventLogEntry) (pcr : PcrId) :
    ((ofEntries (entries ++ others)).find? pcr).map EventLogEntry.events =
      Option.merge (· ++ ·) (((ofEntries entries).find? pcr).map EventLogEntry.events)
        (((ofEntries others).find? pcr).map EventLogEntry.events) := by
  rw [events_find?_ofEntries, events_find?_ofEntries, events_find?_ofEntries,
    EventLogEntry.eventsOf_append]
  simp only [List.map_append, List.mem_append]
  by_cases first : pcr ∈ entries.map EventLogEntry.pcr
  · by_cases second : pcr ∈ others.map EventLogEntry.pcr
    · simp [first, second]
    · simp [first, second, EventLogEntry.eventsOf_eq_nil_of_not_mem second]
  · by_cases second : pcr ∈ others.map EventLogEntry.pcr
    · simp [first, second, EventLogEntry.eventsOf_eq_nil_of_not_mem first]
    · simp [first, second]

/-! ## All events -/

theorem flatMap_events_add_perm (map : EventLogMap) (entry : EventLogEntry) :
    ((map.add entry).items.flatMap EventLogEntry.events).Perm
      (map.items.flatMap EventLogEntry.events ++ entry.events) :=
  PcrTable.flatMap_insertItem_perm EventLogEntry.events EventLogEntry.merge entry
    (fun old same => EventLogEntry.events_merge old entry same) map.items

theorem flatMap_events_ofEntries_perm (entries : List EventLogEntry) :
    ((ofEntries entries).items.flatMap EventLogEntry.events).Perm
      (entries.flatMap EventLogEntry.events) := by
  induction entries using List.reverseRecOn with
  | nil => exact .refl _
  | append_singleton entries entry induction =>
      rw [ofEntries_concat, List.flatMap_append, List.flatMap_singleton]
      exact (flatMap_events_add_perm _ entry).trans (induction.append_right _)

end EventLogMap

namespace EventLogGroups

/-- The groups have one entry for each register of the list, with the events that the list has for
the register, in the order of the list. -/
structure Conserves (entries : List EventLogEntry) (groups : Grouping EventLogEntry) : Prop where
  registers : ∀ pcr,
    pcr ∈ groups.items.map EventLogEntry.pcr ↔ pcr ∈ entries.map EventLogEntry.pcr
  once : (groups.items.map EventLogEntry.pcr).Nodup
  events : ∀ pcr, (groups.lookup? EventLogEntry.pcr pcr).map EventLogEntry.events =
    if pcr ∈ entries.map EventLogEntry.pcr then
      some ((entries.filter fun entry => entry.pcr = pcr).flatMap EventLogEntry.events)
    else none
  all : (groups.items.flatMap EventLogEntry.events).Perm (entries.flatMap EventLogEntry.events)
  total : (groups.items.map fun entry => entry.events.length).sum =
    (entries.map fun entry => entry.events.length).sum

theorem conserves_groups (entries : List EventLogEntry) :
    Conserves entries (EventLogMap.ofEntries entries).groups where
  registers pcr := by
    rw [PcrTable.items_groups]
    exact EventLogMap.mem_map_pcr_ofEntries_iff entries pcr
  once := by
    rw [PcrTable.items_groups]
    exact PcrTable.nodup_map_items _
  events pcr := by
    rw [PcrTable.lookup?_groups]
    exact EventLogMap.events_find?_ofEntries entries pcr
  all := by
    rw [PcrTable.items_groups]
    exact EventLogMap.flatMap_events_ofEntries_perm entries
  total := by
    have same := (EventLogMap.flatMap_events_ofEntries_perm entries).length_eq
    rw [List.length_flatMap, List.length_flatMap] at same
    rw [PcrTable.items_groups]
    exact same

/-- Grouping always succeeds. What is grouped after a list is appended to what the list gives. -/
theorem conserves_of_ofEntries (entries others : List EventLogEntry) :
    ofEntries entries = .ok (EventLogMap.ofEntries entries).groups ∧
      Conserves entries (EventLogMap.ofEntries entries).groups ∧
      ∀ pcr, ((EventLogMap.ofEntries (entries ++ others)).groups.lookup? EventLogEntry.pcr pcr).map
          EventLogEntry.events =
        Option.merge (· ++ ·)
          (((EventLogMap.ofEntries entries).groups.lookup? EventLogEntry.pcr pcr).map
            EventLogEntry.events)
          (((EventLogMap.ofEntries others).groups.lookup? EventLogEntry.pcr pcr).map
            EventLogEntry.events) := by
  refine ⟨ofEntries_eq entries, conserves_groups entries, fun pcr => ?_⟩
  rw [PcrTable.lookup?_groups, PcrTable.lookup?_groups, PcrTable.lookup?_groups]
  exact EventLogMap.events_find?_ofEntries_append entries others pcr

end EventLogGroups

end HostAttestation
