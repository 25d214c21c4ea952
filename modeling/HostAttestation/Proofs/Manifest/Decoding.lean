import HostAttestation.Proofs.EventLog.Decoding
import HostAttestation.Proofs.Manifest.Values

/-! # Manifests in documents

A manifest that is read has what its document lists, except for the arrays of a bank that is
listed again under another key. Within one array nothing is lost, and a register that is listed
twice is refused. -/

namespace HostAttestation

open Grouping (Own)

namespace PcrBank

variable {α : Type} {pcrOf : α → PcrId}

theorem itemsOfGroup_eq_ok_iff (bank : PcrBank) (items result : List α) :
    itemsOfGroup pcrOf bank items = .ok result ↔
      (∀ item ∈ items, (pcrOf item).bank = bank) ∧ items = result := by
  induction items generalizing result with
  | nil => simp [itemsOfGroup]
  | cons item rest induction =>
      rw [itemsOfGroup, List.forall_mem_cons]
      split
      next own =>
        rw [Outcome.map_eq_ok_iff]
        constructor
        · intro collected
          rcases collected with ⟨others, remaining, rfl⟩
          rcases (induction others).mp remaining with ⟨later, rfl⟩
          exact ⟨⟨own, later⟩, rfl⟩
        · intro collected
          rcases collected with ⟨later, rfl⟩
          exact ⟨rest, (induction rest).mpr ⟨later.2, rfl⟩, rfl⟩
      next other => simp [other]

theorem mapM_itemsOfGroup_eq_ok_iff (groups : Grouping α) (lists : List (List α)) :
    groups.mapM (fun group => itemsOfGroup pcrOf group.1 group.2) = .ok lists ↔
      Own pcrOf groups ∧ groups.map Prod.snd = lists := by
  rw [Outcome.mapM_eq_ok_iff]
  simp only [itemsOfGroup_eq_ok_iff]
  induction groups generalizing lists with
  | nil => simp [Own, eq_comm]
  | cons group rest induction =>
      rw [List.forall₂_cons_left_iff]
      simp only [induction, Own, List.forall_mem_cons, List.map_cons]
      constructor
      · intro collected
        rcases collected with ⟨_, _, ⟨own, rfl⟩, ⟨later, rfl⟩, rfl⟩
        exact ⟨⟨own, later⟩, rfl⟩
      · intro collected
        rcases collected with ⟨⟨own, later⟩, rfl⟩
        exact ⟨_, _, ⟨own, rfl⟩, ⟨later, rfl⟩, rfl⟩

end PcrBank

namespace PcrManifest

theorem ofGroups_of_own {groups : Grouping PcrValue} (own : Own PcrValue.pcr groups)
    (logs : EventLogMap) : ofGroups groups logs = ofValues groups.items logs := by
  rw [ofGroups, (PcrBank.mapM_itemsOfGroup_eq_ok_iff groups _).mpr ⟨own, rfl⟩]
  rfl

theorem ofGroups_eq_ok_iff (groups : Grouping PcrValue) (logs : EventLogMap)
    (manifest : PcrManifest) :
    ofGroups groups logs = .ok manifest ↔
      Own PcrValue.pcr groups ∧ ofValues groups.items logs = .ok manifest := by
  constructor
  · intro collected
    rcases Outcome.bind_eq_ok_iff.mp collected with ⟨lists, listed, gathered⟩
    rcases (PcrBank.mapM_itemsOfGroup_eq_ok_iff groups lists).mp listed with ⟨own, rfl⟩
    exact ⟨own, gathered⟩
  · rintro ⟨own, gathered⟩
    rw [ofGroups_of_own own, gathered]

theorem perm_of_ofGroups_eq_ok {groups : Grouping PcrValue} {logs : EventLogMap}
    {manifest : PcrManifest} (collected : ofGroups groups logs = .ok manifest) :
    Own PcrValue.pcr groups ∧ manifest.values.items.Perm groups.items ∧
      manifest.eventLogs = logs := by
  rcases (ofGroups_eq_ok_iff groups logs manifest).mp collected with ⟨own, made⟩
  exact ⟨own, ((ofValues_eq_ok_iff_perm _ logs manifest).mp made).2⟩

theorem exists_ofGroups_eq_error {groups : Grouping PcrValue} (own : Own PcrValue.pcr groups)
    (repeated : ¬(groups.items.map PcrValue.pcr).Nodup) (logs : EventLogMap) :
    ∃ pcr, (groups.items.map PcrValue.pcr).Duplicate pcr ∧
      ofGroups groups logs = .error (.duplicateValue pcr) := by
  rw [ofGroups_of_own own]
  rcases Outcome.ok_or_error (ofValues groups.items logs) with accepted | ⟨violation, refused⟩
  · exact absurd ((exists_ofValues_eq_ok_iff groups.items logs).mp accepted) repeated
  · have collected := (ofValues_eq_error_iff groups.items logs violation).mp refused
    rcases (PcrValues.ofList_eq_error_iff groups.items violation).mp collected with
      ⟨before, value, after, split, -, listed, rfl⟩
    refine ⟨value.pcr, ?_, refused⟩
    rw [split, List.map_append, List.map_cons, List.duplicate_iff_sublist]
    exact (List.singleton_sublist.mpr listed).append
      (List.singleton_sublist.mpr List.mem_cons_self)

/-! ## Documents -/

/-- What a document lists as values and as event logs, whether or not it is read. -/
def Lists (source : Json.Source) (values : Grouping PcrValue) (entries : Grouping EventLogEntry) :
    Prop :=
  ∃ pcrs logs?, Json.Parts "pcrs" "event_logs" source pcrs logs? ∧
    PcrBank.listing (Json.Reader.list PcrValue.read) pcrs = .ok values ∧
    Json.Reader.given (PcrBank.listing (Json.Reader.list EventLogEntry.read)) [] logs? =
      .ok entries

theorem fields_eq : fields = .pair "pcrs" "event_logs"
    (PcrBank.readGroups (Json.Reader.list PcrValue.read)) EventLogMap.read .empty :=
  rfl

theorem keeps_of_read {source : Json.Source} {manifest : PcrManifest}
    (accepted : read source = .ok manifest) :
    ∃ values entries, Lists source values entries ∧ Keeps values manifest.values ∧
      Keeps entries manifest.eventLogs := by
  rcases Json.Reader.checked_eq_ok_iff.mp accepted with ⟨⟨groups, logs⟩, recorded, collected⟩
  rw [fields_eq] at recorded
  rcases Json.Fields.parts_of_read_pair (by decide) recorded with
    ⟨pcrs, logs?, parts, grouped, logged⟩
  rw [PcrBank.readGroups_eq] at grouped
  rcases Outcome.map_eq_ok_iff.mp grouped with ⟨values, listed, rfl⟩
  rcases perm_of_ofGroups_eq_ok collected with ⟨own, same, rfl⟩
  cases logs? with
  | none =>
      have nothing : manifest.eventLogs = .empty := (Except.ok.inj logged).symm
      rw [nothing]
      exact ⟨values, [], ⟨pcrs, none, parts, listed, rfl⟩, keeps_of_perm own same,
        ⟨fun _ => .refl _, fun _ => .refl _⟩⟩
  | some source =>
      rcases EventLogMap.keeps_of_read logged with ⟨entries, lists, keeps⟩
      exact ⟨values, entries, ⟨pcrs, some source, parts, listed, lists⟩, keeps_of_perm own same,
        keeps⟩

/-- The event logs are looked at before the values. -/
theorem read_of_lists {source pcrs : Json.Source} {logs? : Option Json.Source}
    {values : Grouping PcrValue} (parts : Json.Parts "pcrs" "event_logs" source pcrs logs?)
    (listed : PcrBank.listing (Json.Reader.list PcrValue.read) pcrs = .ok values) :
    read source = (do
      let logs ← Json.Reader.given EventLogMap.read .empty logs?
      (ofGroups (PcrBank.latest values) logs).mapError .refused) := by
  have grouped : PcrBank.readGroups (Json.Reader.list PcrValue.read) pcrs =
      .ok (PcrBank.latest values) := by
    rw [PcrBank.readGroups_eq, listed]
    rfl
  have recorded := Json.Fields.read_pair_of_parts EventLogMap.read .empty (by decide) parts grouped
  rw [← fields_eq] at recorded
  cases given : Json.Reader.given EventLogMap.read .empty logs? with
  | error fault =>
      rw [given] at recorded
      rw [read, Json.Reader.checked, recorded]
      rfl
  | ok logs =>
      rw [given] at recorded
      exact Json.Reader.checked_of_read recorded _

/-- Event logs that the document may leave out. -/
theorem exists_given_of_distinct {logs? : Option Json.Source} {entries : Grouping EventLogEntry}
    (lists : Json.Reader.given (PcrBank.listing (Json.Reader.list EventLogEntry.read)) [] logs? =
      .ok entries)
    (once : PcrBank.Once entries) (own : Own EventLogEntry.pcr entries)
    (distinct : (entries.items.map EventLogEntry.pcr).Nodup) :
    ∃ logs, Json.Reader.given EventLogMap.read .empty logs? = .ok logs := by
  cases logs? with
  | none => exact ⟨.empty, rfl⟩
  | some source => exact EventLogMap.exists_read_of_distinct lists once own distinct

theorem exists_read_of_distinct {source : Json.Source} {values : Grouping PcrValue}
    {entries : Grouping EventLogEntry} (lists : Lists source values entries)
    (valuesOnce : PcrBank.Once values) (entriesOnce : PcrBank.Once entries)
    (valuesOwn : Own PcrValue.pcr values) (entriesOwn : Own EventLogEntry.pcr entries)
    (valuesDistinct : (values.items.map PcrValue.pcr).Nodup)
    (entriesDistinct : (entries.items.map EventLogEntry.pcr).Nodup) :
    ∃ manifest, read source = .ok manifest := by
  rcases lists with ⟨pcrs, logs?, parts, listed, given⟩
  rcases exists_given_of_distinct given entriesOnce entriesOwn entriesDistinct with ⟨logs, logged⟩
  have same := (items_latest_perm valuesOnce).map PcrValue.pcr
  rcases (exists_ofValues_eq_ok_iff _ logs).mpr (same.nodup_iff.mpr valuesDistinct) with
    ⟨manifest, made⟩
  refine ⟨manifest, ?_⟩
  rw [read_of_lists parts listed, logged]
  change (ofGroups (PcrBank.latest values) logs).mapError Json.Fault.refused = _
  rw [ofGroups_of_own (own_latest valuesOwn), made]
  rfl

theorem read_of_repeated {source : Json.Source} {values : Grouping PcrValue}
    {entries : Grouping EventLogEntry} (lists : Lists source values entries)
    (valuesOnce : PcrBank.Once values) (entriesOnce : PcrBank.Once entries)
    (valuesOwn : Own PcrValue.pcr values) (entriesOwn : Own EventLogEntry.pcr entries)
    (repeated : ¬((values.items.map PcrValue.pcr).Nodup ∧
      (entries.items.map EventLogEntry.pcr).Nodup)) :
    ∃ pcr, (entries.items.map EventLogEntry.pcr).Duplicate pcr ∧
          read source = .error (.refused (.duplicateEventLog pcr)) ∨
        (values.items.map PcrValue.pcr).Duplicate pcr ∧
          read source = .error (.refused (.duplicateValue pcr)) := by
  rcases lists with ⟨pcrs, logs?, parts, listed, given⟩
  have decoded := read_of_lists parts listed
  -- a repeated value is only looked at once the event logs are accepted
  by_cases distinct : (entries.items.map EventLogEntry.pcr).Nodup
  · rcases exists_given_of_distinct given entriesOnce entriesOwn distinct with ⟨logs, logged⟩
    have valuesRepeated : ¬(values.items.map PcrValue.pcr).Nodup := fun valuesDistinct =>
      repeated ⟨valuesDistinct, distinct⟩
    have same := (items_latest_perm valuesOnce).map PcrValue.pcr
    rcases exists_ofGroups_eq_error (own_latest valuesOwn)
      (fun distinct => valuesRepeated (same.nodup_iff.mp distinct)) logs with
      ⟨pcr, duplicate, refused⟩
    refine ⟨pcr, .inr ⟨PcrId.duplicate_of_perm same duplicate, ?_⟩⟩
    rw [decoded, logged]
    change (ofGroups (PcrBank.latest values) logs).mapError Json.Fault.refused = _
    rw [refused]
    rfl
  · cases logs? with
    | none =>
        cases given
        exact absurd .nil distinct
    | some source =>
        rcases EventLogMap.read_of_repeated given entriesOnce entriesOwn distinct with
          ⟨pcr, duplicate, refused⟩
        refine ⟨pcr, .inl ⟨duplicate, ?_⟩⟩
        rw [decoded, Json.Reader.given, refused]
        rfl

/-- The values and the event logs are those that the text lists, except for the arrays of a bank
that is listed again under another key. If there are none, the text is accepted exactly if
everything is listed under its own bank and no register is listed twice. -/
structure Faithful (text : Bytes) : Prop where
  keeps : ∀ manifest, (Json.parse text).read read = .ok manifest →
    ∃ values entries, Lists (Json.parse text).root values entries ∧
      Keeps values manifest.values ∧ Keeps entries manifest.eventLogs
  accepts : ∀ values entries, (Json.parse text).ended →
    Lists (Json.parse text).root values entries →
    PcrBank.Once values → PcrBank.Once entries →
    Own PcrValue.pcr values → Own EventLogEntry.pcr entries →
    (values.items.map PcrValue.pcr).Nodup → (entries.items.map EventLogEntry.pcr).Nodup →
      ∃ manifest, (Json.parse text).read read = .ok manifest
  refuses : ∀ values entries, Lists (Json.parse text).root values entries →
    PcrBank.Once values → PcrBank.Once entries →
    Own PcrValue.pcr values → Own EventLogEntry.pcr entries →
    ¬((values.items.map PcrValue.pcr).Nodup ∧ (entries.items.map EventLogEntry.pcr).Nodup) →
      ∃ pcr, (entries.items.map EventLogEntry.pcr).Duplicate pcr ∧
            (Json.parse text).read read = .error (.refused (.duplicateEventLog pcr)) ∨
          (values.items.map PcrValue.pcr).Duplicate pcr ∧
            (Json.parse text).read read = .error (.refused (.duplicateValue pcr))

theorem faithful (text : Bytes) : Faithful text where
  keeps _ accepted := keeps_of_read (Json.Document.read_root_of_read accepted)
  accepts _ _ ended lists valuesOnce entriesOnce valuesOwn entriesOwn valuesDistinct
      entriesDistinct := by
    rcases exists_read_of_distinct lists valuesOnce entriesOnce valuesOwn entriesOwn
      valuesDistinct entriesDistinct with ⟨manifest, accepted⟩
    exact ⟨manifest, Json.Document.read_of_ok accepted ended⟩
  refuses _ _ lists valuesOnce entriesOnce valuesOwn entriesOwn repeated := by
    rcases read_of_repeated lists valuesOnce entriesOnce valuesOwn entriesOwn repeated with
      ⟨pcr, ⟨duplicate, refused⟩ | ⟨duplicate, refused⟩⟩
    · exact ⟨pcr, .inl ⟨duplicate, Json.Document.read_of_error refused⟩⟩
    · exact ⟨pcr, .inr ⟨duplicate, Json.Document.read_of_error refused⟩⟩

end PcrManifest

theorem faithful_of_text (text : Bytes) :
    EventLogMap.Faithful text ∧ PcrManifest.Faithful text :=
  ⟨EventLogMap.faithful text, PcrManifest.faithful text⟩

/-- One array lists a register twice. -/
def repeating : Bytes :=
  Utf8.encode ("\x7b\"SHA1\":[\x7b\"pcr\":\x7b\"index\":0,\"bank\":\"SHA1\"\x7d\x7d," ++
    "\x7b\"pcr\":\x7b\"index\":0,\"bank\":\"SHA1\"\x7d\x7d]\x7d")

/-- One bank is listed under two of its names. -/
def respelling : Bytes :=
  Utf8.encode ("\x7b\"SHA1\":[\x7b\"pcr\":\x7b\"index\":0,\"bank\":\"SHA1\"\x7d\x7d," ++
    "\x7b\"pcr\":\x7b\"index\":1,\"bank\":\"SHA1\"\x7d\x7d]," ++
    "\"sha-1\":[\x7b\"pcr\":\x7b\"index\":0,\"bank\":\"SHA1\"\x7d\x7d]\x7d")

def entryOf (value : Nat) (below : value < pcrCount) : EventLogEntry :=
  .empty ⟨⟨value, below⟩, .sha1⟩

theorem refused_of_repeating :
    ∃ pcr, (Json.parse repeating).read EventLogMap.read =
      .error (.refused (.duplicateEventLog pcr)) := by
  have lists : EventLogMap.Lists (Json.parse repeating).root
      [(.sha1, [entryOf 0 (by decide), entryOf 0 (by decide)])] := by
    unfold EventLogMap.Lists
    decide +kernel
  rcases (faithful_of_text repeating).1.refuses _ lists (by decide) (by decide) (by decide) with
    ⟨pcr, -, refused⟩
  exact ⟨pcr, refused⟩

theorem dropped_of_respelling :
    ∃ map listed, (Json.parse respelling).read EventLogMap.read = .ok map ∧
      EventLogMap.Lists (Json.parse respelling).root listed ∧
      ¬(listed.items.map EventLogEntry.pcr).Nodup ∧ ∃ entry ∈ listed.items, entry ∉ map.items := by
  refine ⟨.ofEntries [entryOf 0 (by decide)],
    [(.sha1, [entryOf 0 (by decide), entryOf 1 (by decide)]), (.sha1, [entryOf 0 (by decide)])],
    by decide +kernel, ?_, by decide, entryOf 1 (by decide), by decide, by decide⟩
  unfold EventLogMap.Lists
  decide +kernel

end HostAttestation
