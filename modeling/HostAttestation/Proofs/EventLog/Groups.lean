import HostAttestation.Proofs.EventLog.Grouping
import HostAttestation.Proofs.Json.Fields
import HostAttestation.Proofs.Pcr.Collecting

/-! # Event logs group by group

An event log can be kept as one group of entries for every bank, and be made and reduced group by
group. Whichever way one comes by it, the groups are in order, and they show the same as the map
that is kept as one list. -/

namespace HostAttestation

namespace EventLogEntry

/-! ## Entries that are continued -/

def pushAll (entry : EventLogEntry) (events : List Event) : Except Violation EventLogEntry :=
  events.foldlM push entry

theorem exists_pushAll_eq_ok (entry : EventLogEntry) {events : List Event}
    (fit : ∀ event ∈ events, event.Fits entry.pcr.bank) :
    ∃ result, entry.pushAll events = .ok result ∧ result.pcr = entry.pcr ∧
      result.events = entry.events ++ events := by
  unfold pushAll
  induction events generalizing entry with
  | nil => exact ⟨entry, rfl, rfl, (List.append_nil _).symm⟩
  | cons event rest induction =>
      have fits := List.forall_mem_cons.mp fit
      rw [List.foldlM_cons, push, dif_pos fits.1]
      rcases induction ⟨entry.pcr, entry.events ++ [event], _⟩ fits.2 with
        ⟨result, continued, pcr, events⟩
      exact ⟨result, continued, pcr, by rw [events, List.append_assoc, List.singleton_append]⟩

/-- Another entry of the same register only has events that fit. -/
theorem pushAll_eq_merge {entry other : EventLogEntry} (same : other.pcr = entry.pcr) :
    entry.pushAll other.events = .ok (entry.merge other) := by
  rcases exists_pushAll_eq_ok entry (same ▸ other.fit) with ⟨result, continued, pcr, events⟩
  rw [continued, eq_of_events_eq (pcr.trans (pcr_merge entry other).symm)
    (events.trans (events_merge entry other same).symm)]

end EventLogEntry

namespace EventLogGroups

open EventLogEntry (pushAll pushAll_eq_merge)
open Grouping (InOrder)

/-! ## Entries that are collected -/

abbrev Collected := Std.TreeMap PcrId EventLogEntry (compareOn PcrId.place)

def collect (collected : Collected) (entry : EventLogEntry) : Except Violation Collected :=
  match collected[entry.pcr]? with
  | some old => (old.pushAll entry.events).map (collected.insert entry.pcr)
  | none => .ok (collected.insert entry.pcr entry)

/-- What was collected, register by register. -/
def inTurn (collected : Collected) : List EventLogEntry :=
  collected.toList.map Prod.snd

def ofEntries (entries : List EventLogEntry) : Except Violation (Grouping EventLogEntry) := do
  let collected ← entries.foldlM collect ∅
  pure ((inTurn collected).foldl (Grouping.push EventLogEntry.pcr) [])

/-- The collected entries are those of a map. -/
def Holds (collected : Collected) (map : EventLogMap) : Prop :=
  ∀ pcr, collected[pcr]? = map.find? pcr

section

variable {collected : Collected} {map : EventLogMap}

theorem collect_of_holds (holds : Holds collected map) (entry : EventLogEntry) :
    ∃ next, collect collected entry = .ok next ∧ Holds next (map.add entry) := by
  -- whether it is new or continued, the entry that is inserted is the one that the map has
  have inserted : ∀ value,
      value = ((map.find? entry.pcr).map (·.merge entry)).getD entry →
        Holds (collected.insert entry.pcr value) (map.add entry) := fun value settled =>
    PcrTable.getElem?_insert_of_find? holds EventLogEntry.pcr_merge settled
  rw [collect, holds]
  cases found : map.find? entry.pcr with
  | none => exact ⟨_, rfl, inserted entry (by rw [found]; rfl)⟩
  | some old =>
      have same := ((PcrTable.find?_eq_some_iff map entry.pcr old).mp found).2
      refine ⟨collected.insert entry.pcr (old.merge entry), ?_, inserted _ (by rw [found]; rfl)⟩
      change (old.pushAll entry.events).map (collected.insert entry.pcr) = _
      rw [pushAll_eq_merge same.symm]
      rfl

theorem foldlM_collect_of_holds (holds : Holds collected map) (entries : List EventLogEntry) :
    ∃ last, entries.foldlM collect collected = .ok last ∧
      Holds last (entries.foldl EventLogMap.add map) := by
  induction entries generalizing collected map with
  | nil => exact ⟨collected, rfl, holds⟩
  | cons entry rest induction =>
      rcases collect_of_holds holds entry with ⟨next, step, nextHolds⟩
      rcases induction nextHolds with ⟨last, steps, lastHolds⟩
      exact ⟨last, by rw [List.foldlM_cons, step]; exact steps, lastHolds⟩

end

/-- Merging never fails. -/
theorem ofEntries_eq (entries : List EventLogEntry) :
    ofEntries entries = .ok (EventLogMap.ofEntries entries).groups := by
  have nothing : Holds ∅ .empty := fun pcr => Std.TreeMap.getElem?_emptyc
  rcases foldlM_collect_of_holds nothing entries with ⟨collected, steps, holds⟩
  rw [ofEntries, steps]
  exact congrArg Except.ok (PcrTable.foldl_push_collected holds)

/-! ## Groups of a document -/

def ofGroups (groups : Grouping EventLogEntry) : Except Violation (Grouping EventLogEntry) := do
  let entries ← groups.foldlM (fun seen group => EventLogMap.checkGroup group.1 seen group.2) []
  ofEntries entries

def read : Decoding (Grouping EventLogEntry) :=
  Json.Reader.checked (PcrBank.readGroups (Json.Reader.list EventLogEntry.read)) ofGroups

theorem ofGroups_eq (groups : Grouping EventLogEntry) :
    ofGroups groups = (EventLogMap.ofGroups groups).map PcrTable.groups := by
  rw [ofGroups, EventLogMap.ofGroups]
  cases groups.foldlM (fun seen group => EventLogMap.checkGroup group.1 seen group.2) [] with
  | error violation => rfl
  | ok entries => exact ofEntries_eq entries

theorem read_eq (source : Json.Source) :
    read source = (EventLogMap.read source).map PcrTable.groups :=
  Json.Reader.checked_map _ PcrTable.groups ofGroups_eq source

/-! ## Ways to come by an event log -/

inductive Origin
  | nothing
  | entries (list : List EventLogEntry)
  | document (text : Bytes)

namespace Origin

def map : Origin → Except (Json.Fault Violation) EventLogMap
  | nothing => .ok .empty
  | entries list => .ok (.ofEntries list)
  | document text => (Json.parse text).read EventLogMap.read

def groups : Origin → Except (Json.Fault Violation) (Grouping EventLogEntry)
  | nothing => .ok []
  | entries list => (ofEntries list).mapError .refused
  | document text => (Json.parse text).read read

theorem groups_eq (origin : Origin) : origin.groups = origin.map.map PcrTable.groups := by
  cases origin with
  | nothing => rfl
  | entries list => rw [groups, ofEntries_eq]; rfl
  | document text => exact Json.Document.read_map read_eq (Json.parse text)

/-- A map from which entries were taken out, with one predicate after the other. -/
def reducedMap (origin : Origin) (keeps : List (EventLogEntry → Bool)) :
    Except (Json.Fault Violation) EventLogMap :=
  origin.map.map (keeps.foldl fun map keep => map.filter keep)

def reducedGroups (origin : Origin) (keeps : List (EventLogEntry → Bool)) :
    Except (Json.Fault Violation) (Grouping EventLogEntry) :=
  origin.groups.map (keeps.foldl fun groups keep => groups.retain keep)

theorem foldl_retain_groups (keeps : List (EventLogEntry → Bool)) (map : EventLogMap) :
    keeps.foldl (fun groups keep => groups.retain keep) map.groups =
      (keeps.foldl (fun map keep => map.filter keep) map).groups := by
  induction keeps generalizing map with
  | nil => rfl
  | cons keep rest induction =>
      rw [List.foldl_cons, List.foldl_cons, ← PcrTable.groups_filter, induction]

theorem reducedGroups_eq (origin : Origin) (keeps : List (EventLogEntry → Bool)) :
    origin.reducedGroups keeps = (origin.reducedMap keeps).map PcrTable.groups := by
  rw [reducedGroups, reducedMap, groups_eq]
  cases origin.map with
  | error fault => rfl
  | ok map => exact congrArg Except.ok (foldl_retain_groups keeps map)

end Origin

/-! ## What the groups hold and show -/

/-- The groups are as they should be, and every question about them is answered from the list of
all their entries. -/
structure Sound (groups : Grouping EventLogEntry) : Prop where
  order : InOrder EventLogEntry.pcr groups
  fit : ∀ group ∈ groups, ∀ entry ∈ group.2, ∀ event ∈ entry.events,
    event.measurement.length = group.1.digestLength
  ascending : groups.items.Pairwise fun left right => left.pcr.Before right.pcr
  lookup : ∀ pcr entry, groups.lookup? EventLogEntry.pcr pcr = some entry ↔
    (groups.items.filter fun other => other.pcr = pcr) = [entry]
  ofBank : ∀ bank, groups.ofBank bank = groups.items.filter fun entry => entry.pcr.bank = bank
  size : groups.size = groups.items.length
  empty : groups.isEmpty = true ↔ groups.size = 0
  retain : ∀ keep, (groups.retain keep).items = groups.items.filter keep
  again : ofEntries groups.items = .ok groups

/-- The groups and the map give the same answers, and are written the same. -/
structure Shows (map : EventLogMap) (groups : Grouping EventLogEntry) : Prop where
  items : groups.items = map.items
  lookup : ∀ pcr, groups.lookup? EventLogEntry.pcr pcr = map.find? pcr
  ofBank : ∀ bank, groups.ofBank bank = map.ofBank bank
  banks : groups.map Prod.fst = map.banks
  size : groups.size = map.size
  empty : groups.isEmpty = map.isEmpty
  retain : ∀ keep, groups.retain keep = (map.filter keep).groups
  again : EventLogMap.ofEntries groups.items = map
  written : map.toJson = .object (groups.map fun group =>
    (group.1.bankName, .array (group.2.map EventLogEntry.toJson)))

/-- A list with one entry for each register is only put in order. -/
theorem ofEntries_items (map : EventLogMap) : EventLogMap.ofEntries map.items = map := by
  refine PcrTable.eq_of_mem_items_iff fun entry => ?_
  rw [EventLogMap.mem_ofEntries_iff, EventLogEntry.eventsOf, PcrTable.filter_items_eq]
  constructor
  · rintro ⟨listed, events⟩
    rcases List.mem_map.mp listed with ⟨other, member, same⟩
    have found := (PcrTable.find?_eq_some_iff map entry.pcr other).mpr ⟨member, same⟩
    rw [found] at events
    rw [EventLogEntry.eq_of_events_eq same.symm (by simpa using events)]
    exact member
  · intro member
    rw [(PcrTable.mem_items_iff map entry).mp member]
    exact ⟨List.mem_map_of_mem member, by simp⟩

theorem shows_groups (map : EventLogMap) : Shows map map.groups where
  items := map.items_groups
  lookup := map.lookup?_groups
  ofBank := map.ofBank_groups
  banks := by simp [PcrTable.groups, Function.comp_def]
  size := map.size_groups
  empty := map.isEmpty_groups
  retain keep := (map.groups_filter keep).symm
  again := by rw [map.items_groups, ofEntries_items]
  written := by simp [EventLogMap.toJson, PcrTable.toJson, PcrTable.groups, Function.comp_def]

theorem sound_groups (map : EventLogMap) : Sound map.groups where
  order := map.inOrder_groups
  fit group member entry listed event logged := by
    rw [← map.inOrder_groups.own group member entry listed]
    exact entry.fit event logged
  ascending := map.inOrder_groups.before
  lookup pcr entry := by
    rw [map.lookup?_groups, map.items_groups, map.filter_items_eq]
    cases map.find? pcr <;> simp
  ofBank bank := by rw [map.ofBank_groups, map.items_groups, PcrTable.ofBank]
  size := map.groups.size_eq_length_items
  empty := by
    rw [map.isEmpty_groups, map.size_groups, PcrTable.isEmpty, PcrTable.size,
      List.isEmpty_iff_length_eq_zero]
  retain keep := by
    rw [← map.groups_filter, PcrTable.items_groups, PcrTable.items_groups, PcrTable.filter]
  again := by rw [map.items_groups, ofEntries_eq, ofEntries_items]

/-- Whatever one starts from and whatever is taken out. Only a document can be refused. -/
theorem sound_of_reducedGroups (origin : Origin) (keeps : List (EventLogEntry → Bool)) :
    origin.reducedGroups keeps = (origin.reducedMap keeps).map PcrTable.groups ∧
      ((∀ text, origin ≠ .document text) → ∃ groups, origin.reducedGroups keeps = .ok groups) ∧
      ∀ groups, origin.reducedGroups keeps = .ok groups →
        Sound groups ∧ ∃ map, origin.reducedMap keeps = .ok map ∧ Shows map groups := by
  refine ⟨origin.reducedGroups_eq keeps, fun undocumented => ?_, fun groups reduced => ?_⟩
  · rw [origin.reducedGroups_eq]
    cases origin with
    | nothing => exact ⟨_, rfl⟩
    | entries list => exact ⟨_, rfl⟩
    | document text => exact absurd rfl (undocumented text)
  · rw [origin.reducedGroups_eq] at reduced
    rcases Outcome.map_eq_ok_iff.mp reduced with ⟨map, reached, rfl⟩
    exact ⟨sound_groups map, map, reached, shows_groups map⟩

/-- Two banks, one of them out of order. -/
def twoBanks : Bytes :=
  Utf8.encode ("\x7b\"SHA256\":[\x7b\"pcr\":\x7b\"index\":3,\"bank\":\"SHA256\"\x7d\x7d," ++
    "\x7b\"pcr\":\x7b\"index\":1,\"bank\":\"SHA256\"\x7d\x7d]," ++
    "\"sha1\":[\x7b\"pcr\":\x7b\"index\":0,\"bank\":\"SHA1\"\x7d\x7d]\x7d")

def oneBank : Grouping EventLogEntry :=
  [(.sha256, [.empty ⟨⟨1, by decide⟩, .sha256⟩, .empty ⟨⟨3, by decide⟩, .sha256⟩])]

theorem sound_of_reducedGroups_emptying :
    (Origin.document twoBanks).reducedGroups [fun entry => entry.pcr.index.value != 0] =
        .ok oneBank ∧ Sound oneBank := by
  have reduced : (Origin.document twoBanks).reducedGroups
      [fun entry => entry.pcr.index.value != 0] = .ok oneBank := by
    decide +kernel
  exact ⟨reduced, ((sound_of_reducedGroups _ _).2.2 _ reduced).1⟩

end EventLogGroups

end HostAttestation
