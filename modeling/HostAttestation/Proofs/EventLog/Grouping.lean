import HostAttestation.EventLog.Map
import HostAttestation.Proofs.Pcr.Table
import Mathlib.Data.List.Induction

/-! # Grouping entries by register

Grouping loses, repeats and reorders nothing: the map has one entry for each register that occurs
in the list, and its events are those of all entries of the register in the order of arrival. -/

namespace HostAttestation

namespace EventLogEntry

theorem eq_of_events_eq {left right : EventLogEntry} (pcrs : left.pcr = right.pcr)
    (events : left.events = right.events) : left = right := by
  cases left
  cases right
  simp_all

theorem ofEvents_eq_ok_iff (pcr : PcrId) (events : List Event) (entry : EventLogEntry) :
    ofEvents pcr events = .ok entry ↔ entry.pcr = pcr ∧ entry.events = events := by
  unfold ofEvents
  constructor
  · intro succeeds
    split at succeeds
    · cases succeeds
    · cases succeeds
      exact ⟨rfl, rfl⟩
  · rintro ⟨rfl, rfl⟩
    have fit := (firstViolation?_eq_none_iff entry.pcr 0 entry.events).mpr entry.fit
    split
    next found =>
      rw [fit] at found
      cases found
    next => rfl

theorem events_merge (entry other : EventLogEntry) (same : other.pcr = entry.pcr) :
    (entry.merge other).events = entry.events ++ other.events := by
  simp [merge, same, append]

/-- The events of a register among entries, in the order of arrival. -/
def eventsOf (pcr : PcrId) (entries : List EventLogEntry) : List Event :=
  (entries.filter fun entry => entry.pcr = pcr).flatMap EventLogEntry.events

theorem fits_of_mem_eventsOf (pcr : PcrId) (entries : List EventLogEntry) :
    ∀ event ∈ eventsOf pcr entries, event.Fits pcr.bank := by
  intro event member
  rcases List.mem_flatMap.mp member with ⟨entry, entryMember, eventMember⟩
  have named : entry.pcr = pcr := by simpa using (List.mem_filter.mp entryMember).2
  exact named ▸ entry.fit event eventMember

@[simp]
theorem eventsOf_nil (pcr : PcrId) : eventsOf pcr [] = [] :=
  rfl

theorem eventsOf_append (pcr : PcrId) (first second : List EventLogEntry) :
    eventsOf pcr (first ++ second) = eventsOf pcr first ++ eventsOf pcr second := by
  simp [eventsOf]

theorem eventsOf_singleton (pcr : PcrId) (entry : EventLogEntry) :
    eventsOf pcr [entry] = if entry.pcr = pcr then entry.events else [] := by
  by_cases named : entry.pcr = pcr
  · simp [eventsOf, named]
  · simp [eventsOf, named]

theorem eventsOf_cons (pcr : PcrId) (entry : EventLogEntry) (entries : List EventLogEntry) :
    eventsOf pcr (entry :: entries) =
      (if entry.pcr = pcr then entry.events else []) ++ eventsOf pcr entries := by
  rw [← List.singleton_append, eventsOf_append, eventsOf_singleton]

/-- Without the entries of other registers the events of a register stay the same. -/
theorem eventsOf_filter (keep : PcrId → Bool) (pcr : PcrId) (entries : List EventLogEntry)
    (kept : keep pcr) : eventsOf pcr (entries.filter fun entry => keep entry.pcr) =
      eventsOf pcr entries := by
  rw [eventsOf, eventsOf, List.filter_filter]
  congr 1
  apply List.filter_congr
  intro entry _
  by_cases named : entry.pcr = pcr
  · simp [named, kept]
  · simp [named]

theorem mem_map_pcr_filter_iff (keep : PcrId → Bool) (pcr : PcrId) (entries : List EventLogEntry) :
    pcr ∈ (entries.filter fun entry => keep entry.pcr).map EventLogEntry.pcr ↔
      pcr ∈ entries.map EventLogEntry.pcr ∧ keep pcr := by
  have filtered : (entries.map EventLogEntry.pcr).filter keep =
      (entries.filter fun entry => keep entry.pcr).map EventLogEntry.pcr := List.filter_map
  rw [← filtered, List.mem_filter]

theorem eventsOf_eq_nil_of_not_mem {pcr : PcrId} {entries : List EventLogEntry}
    (unlisted : pcr ∉ entries.map EventLogEntry.pcr) : eventsOf pcr entries = [] := by
  rw [eventsOf, List.filter_eq_nil_iff.mpr, List.flatMap_nil]
  intro entry member
  simpa using fun named => unlisted (List.mem_map.mpr ⟨entry, member, named⟩)

/-- All events of a register in one entry. -/
def gathered (pcr : PcrId) (entries : List EventLogEntry) : EventLogEntry :=
  ⟨pcr, eventsOf pcr entries, fits_of_mem_eventsOf pcr entries⟩

theorem gathered_concat_of_ne {pcr : PcrId} {entry : EventLogEntry} (other : entry.pcr ≠ pcr)
    (entries : List EventLogEntry) : gathered pcr (entries ++ [entry]) = gathered pcr entries := by
  refine eq_of_events_eq (by rfl) ?_
  change eventsOf pcr (entries ++ [entry]) = eventsOf pcr entries
  rw [eventsOf_append, eventsOf_singleton, if_neg other, List.append_nil]

theorem gathered_concat_of_eq {pcr : PcrId} {entry : EventLogEntry} (named : entry.pcr = pcr)
    (entries : List EventLogEntry) :
    gathered pcr (entries ++ [entry]) = (gathered pcr entries).merge entry := by
  refine eq_of_events_eq (by rw [pcr_merge]; rfl) ?_
  rw [events_merge _ _ named]
  change eventsOf pcr (entries ++ [entry]) = eventsOf pcr entries ++ entry.events
  rw [eventsOf_append, eventsOf_singleton, if_pos named]

theorem gathered_singleton {pcr : PcrId} {entry : EventLogEntry} (named : entry.pcr = pcr)
    {entries : List EventLogEntry} (unlisted : pcr ∉ entries.map EventLogEntry.pcr) :
    gathered pcr (entries ++ [entry]) = entry := by
  refine eq_of_events_eq named.symm ?_
  change eventsOf pcr (entries ++ [entry]) = entry.events
  rw [eventsOf_append, eventsOf_singleton, if_pos named, eventsOf_eq_nil_of_not_mem unlisted,
    List.nil_append]

end EventLogEntry

namespace EventLogMap

open EventLogEntry (eventsOf gathered)

theorem ofEntries_concat (entries : List EventLogEntry) (entry : EventLogEntry) :
    ofEntries (entries ++ [entry]) = (ofEntries entries).add entry := by
  simp [ofEntries]

theorem find?_add (map : EventLogMap) (entry : EventLogEntry) (pcr : PcrId) :
    (map.add entry).find? pcr =
      if entry.pcr = pcr then some (((map.find? pcr).map (·.merge entry)).getD entry)
      else map.find? pcr :=
  PcrTable.find?_insert EventLogEntry.merge EventLogEntry.pcr_merge map entry pcr

/-- By induction on the list from its end: the last entry continues what was gathered before. -/
theorem find?_ofEntries (entries : List EventLogEntry) (pcr : PcrId) :
    (ofEntries entries).find? pcr =
      if pcr ∈ entries.map EventLogEntry.pcr then some (gathered pcr entries) else none := by
  induction entries using List.reverseRecOn with
  | nil => rfl
  | append_singleton entries entry induction =>
      rw [ofEntries_concat, find?_add, induction]
      by_cases named : entry.pcr = pcr
      · have listed : pcr ∈ (entries ++ [entry]).map EventLogEntry.pcr := by simp [named]
        rw [if_pos named, if_pos listed]
        split
        next => rw [EventLogEntry.gathered_concat_of_eq named]; rfl
        next unlisted => rw [EventLogEntry.gathered_singleton named unlisted]; rfl
      · have listed : pcr ∈ (entries ++ [entry]).map EventLogEntry.pcr ↔
            pcr ∈ entries.map EventLogEntry.pcr := by
          simp [Ne.symm named]
        rw [if_neg named, EventLogEntry.gathered_concat_of_ne named]
        simp only [listed]

theorem events_find?_ofEntries (entries : List EventLogEntry) (pcr : PcrId) :
    ((ofEntries entries).find? pcr).map EventLogEntry.events =
      if pcr ∈ entries.map EventLogEntry.pcr then some (eventsOf pcr entries) else none := by
  rw [find?_ofEntries]
  split <;> rfl

theorem mem_ofEntries_iff (entries : List EventLogEntry) (entry : EventLogEntry) :
    entry ∈ (ofEntries entries).items ↔
      entry.pcr ∈ entries.map EventLogEntry.pcr ∧ entry.events = eventsOf entry.pcr entries := by
  rw [PcrTable.mem_items_iff, find?_ofEntries]
  by_cases listed : entry.pcr ∈ entries.map EventLogEntry.pcr
  · rw [if_pos listed, Option.some_inj]
    constructor
    · intro equal
      exact ⟨listed, congrArg EventLogEntry.events equal.symm⟩
    · rintro ⟨-, events⟩
      exact EventLogEntry.eq_of_events_eq rfl events.symm
  · simp [listed]

/-- Entries that are left out of the list are missing from the map, and nothing else changes. -/
theorem mem_ofEntries_filter_iff (keep : PcrId → Bool) (entries : List EventLogEntry)
    (entry : EventLogEntry) :
    entry ∈ (ofEntries (entries.filter fun other => keep other.pcr)).items ↔
      entry ∈ (ofEntries entries).items ∧ keep entry.pcr := by
  rw [mem_ofEntries_iff, mem_ofEntries_iff, EventLogEntry.mem_map_pcr_filter_iff, and_right_comm]
  refine and_congr_left fun kept => and_congr_right fun _ => ?_
  rw [EventLogEntry.eventsOf_filter keep entry.pcr entries kept]

end EventLogMap

end HostAttestation
