import HostAttestation.Proofs.Manifest.Decoding
import HostAttestation.Proofs.Manifest.Groups
import HostAttestation.Proofs.Pcr.RoundTrip

/-! # Canonical manifests

A manifest is made of any values of distinct registers, and it does not show in what order they
came: the values are in the order of the registers, and every answer can be told from the list of
the values alone. Manifests that are read are made of what their documents list. -/

namespace HostAttestation

open Grouping (InOrder Own)

/-! ## Answers -/

/-- The groups are in order, and the list of the values decides what is answered. -/
structure GroupedManifest.Canonical (manifest : GroupedManifest) (list : List PcrValue) : Prop where
  order : InOrder PcrValue.pcr manifest.values
  same : manifest.values.items.Perm list
  ascending : manifest.values.items.Pairwise fun left right => left.pcr.Before right.pcr
  found : ∀ pcr value, manifest.value? pcr = some value ↔ value ∈ list ∧ value.pcr = pcr
  absent : ∀ pcr, manifest.value? pcr = none ↔ pcr ∉ list.map PcrValue.pcr
  banks : manifest.banks.Pairwise fun left right => left.rank < right.rank
  mem_banks : ∀ bank, bank ∈ manifest.banks ↔ ∃ value ∈ list, value.pcr.bank = bank
  indexes : ∀ bank, (manifest.indexes bank).Pairwise fun left right => left.value < right.value
  mem_indexes : ∀ bank index,
    index ∈ manifest.indexes bank ↔ ∃ value ∈ list, value.pcr = ⟨index, bank⟩
  digest : ∀ algorithm (ordered : List PcrValue), ordered.Perm list →
    ordered.Pairwise (fun left right => left.pcr.Before right.pcr) →
      manifest.digest algorithm = algorithm.digest (ordered.flatMap PcrValue.digest)

namespace PcrManifest

variable {manifest : PcrManifest} {list : List PcrValue}

theorem mem_indexes_grouped_iff (bank : PcrBank) (index : PcrIndex) :
    index ∈ manifest.grouped.indexes bank ↔
      ∃ value ∈ manifest.values.items, value.pcr = ⟨index, bank⟩ := by
  rw [indexes_grouped]
  simp only [PcrTable.ofBank, List.mem_map, List.mem_filter, decide_eq_true_iff]
  constructor
  · rintro ⟨value, ⟨member, rfl⟩, rfl⟩
    exact ⟨value, member, rfl⟩
  · rintro ⟨value, member, named⟩
    exact ⟨value, ⟨member, congrArg PcrId.bank named⟩, congrArg PcrId.index named⟩

theorem mem_banks_grouped_iff (bank : PcrBank) :
    bank ∈ manifest.grouped.banks ↔ ∃ value ∈ manifest.values.items, value.pcr.bank = bank := by
  rw [banks_grouped, PcrTable.banks, List.mem_filter, PcrTable.ofBank]
  simp [HashAlgorithm.mem_all]

theorem canonical_grouped (same : manifest.values.items.Perm list) :
    manifest.grouped.Canonical list where
  order := manifest.values.inOrder_groups
  same := by
    rw [grouped, PcrTable.items_groups]
    exact same
  ascending := manifest.values.inOrder_groups.before
  found pcr value := by rw [value?_grouped, PcrTable.find?_eq_some_iff, same.mem_iff]
  absent pcr := by
    rw [value?_grouped, PcrTable.find?_eq_none_iff, ← (same.map PcrValue.pcr).mem_iff]
    simp
  banks := List.pairwise_map.mpr manifest.values.inOrder_groups.banks
  mem_banks bank := by
    rw [mem_banks_grouped_iff]
    exact exists_congr fun value => and_congr_left fun _ => same.mem_iff
  indexes bank := by
    rw [indexes_grouped]
    exact List.pairwise_map.mpr (manifest.values.ascending_ofBank bank)
  mem_indexes bank index := by
    rw [mem_indexes_grouped_iff]
    exact exists_congr fun value => and_congr_left fun _ => same.mem_iff
  digest algorithm ordered reordered ascending := by
    have positions := ascending.imp fun before => (PcrId.position_lt_iff _ _).mpr before
    have equal : ordered = manifest.values.items :=
      eq_of_ascending (fun value => value.pcr.position) positions manifest.values.ordered
        fun _ => (reordered.trans same.symm).mem_iff
    rw [digest_grouped, equal, digest, PcrValue.digestAll]

/-! ## Documents -/

theorem given_of_lists {logs? : Option Json.Source} {entries : Grouping EventLogEntry}
    (lists : Json.Reader.given (PcrBank.listing (Json.Reader.list EventLogEntry.read)) [] logs? =
      .ok entries) :
    Json.Reader.given EventLogMap.read .empty logs? =
      (EventLogMap.ofGroups (PcrBank.latest entries)).mapError .refused := by
  cases logs? with
  | none =>
      cases lists
      rfl
  | some source => exact EventLogMap.read_of_lists lists

/-- What a document lists decides what is read from it. -/
theorem read_eq_ok_iff_of_lists {source : Json.Source} {values : Grouping PcrValue}
    {entries : Grouping EventLogEntry} (lists : Lists source values entries)
    (manifest : PcrManifest) :
    read source = .ok manifest ↔
      EventLogMap.ofGroups (PcrBank.latest entries) = .ok manifest.eventLogs ∧
        Own PcrValue.pcr (PcrBank.latest values) ∧
        ofValues (Grouping.items (PcrBank.latest values)) manifest.eventLogs = .ok manifest := by
  rcases lists with ⟨pcrs, logs?, parts, listed, given⟩
  rw [read_of_lists parts listed, given_of_lists given, ← ofGroups_eq_ok_iff,
    Outcome.bind_eq_ok_iff]
  constructor
  · rintro ⟨logs, logged, gathered⟩
    rw [Outcome.mapError_eq_ok_iff] at logged gathered
    have kept : manifest.eventLogs = logs := (perm_of_ofGroups_eq_ok gathered).2.2
    rw [kept]
    exact ⟨logged, gathered⟩
  · rintro ⟨logged, gathered⟩
    exact ⟨manifest.eventLogs, Outcome.mapError_eq_ok_iff.mpr logged,
      Outcome.mapError_eq_ok_iff.mpr gathered⟩

theorem read_of_reordered {source other : Json.Source} {manifest : PcrManifest}
    {values revalues : Grouping PcrValue} {entries : Grouping EventLogEntry}
    (lists : Lists source values entries) (accepted : read source = .ok manifest)
    (relists : Lists other revalues entries) (reordered : Reordered values revalues) :
    read other = .ok manifest := by
  rcases (read_eq_ok_iff_of_lists lists manifest).mp accepted with ⟨logged, own, made⟩
  exact (read_eq_ok_iff_of_lists relists manifest).mpr
    ⟨logged, reordered.latest.own own, ofValues_eq_ok_of_perm made reordered.latest.items_perm.symm⟩

/-- Kept in tables or in groups, a manifest answers the same. -/
structure Shows (manifest : PcrManifest) (grouped : GroupedManifest) : Prop where
  items : grouped.values.items = manifest.values.items
  lookup : ∀ pcr, grouped.value? pcr = manifest.values.find? pcr
  banks : grouped.banks = manifest.values.banks
  indexes : ∀ bank,
    grouped.indexes bank = (manifest.values.ofBank bank).map fun value => value.pcr.index
  digest : ∀ algorithm, grouped.digest algorithm = manifest.digest algorithm

theorem shows_grouped (manifest : PcrManifest) : manifest.Shows manifest.grouped where
  items := manifest.values.items_groups
  lookup := manifest.value?_grouped
  banks := manifest.banks_grouped
  indexes := manifest.indexes_grouped
  digest := manifest.digest_grouped

/-- What comes of a list of values: it is refused for the first register that is repeated, and
otherwise makes a manifest that does not depend on its order. -/
structure Settles (list : List PcrValue) (eventLogs : EventLogMap) : Prop where
  grouped : GroupedManifest.ofValues list eventLogs.groups =
    (ofValues list eventLogs).map PcrManifest.grouped
  accepted : (∃ manifest, ofValues list eventLogs = .ok manifest) ↔
    (list.map PcrValue.pcr).Nodup
  refused : ∀ violation, ofValues list eventLogs = .error violation ↔
    ∃ before value after, list = before ++ value :: after ∧
      (before.map PcrValue.pcr).Nodup ∧ value.pcr ∈ before.map PcrValue.pcr ∧
      .duplicateValue value.pcr = violation
  canonical : ∀ manifest, ofValues list eventLogs = .ok manifest →
    manifest.eventLogs = eventLogs ∧ manifest.grouped.Canonical list ∧
      manifest.Shows manifest.grouped
  reordered : ∀ manifest other, ofValues list eventLogs = .ok manifest → other.Perm list →
    ofValues other eventLogs = .ok manifest

theorem settles (list : List PcrValue) (eventLogs : EventLogMap) : Settles list eventLogs where
  grouped := GroupedManifest.ofValues_eq list eventLogs
  accepted := exists_ofValues_eq_ok_iff list eventLogs
  refused violation := by
    rw [ofValues_eq_error_iff, PcrValues.ofList_eq_error_iff]
  canonical manifest made := by
    rcases (ofValues_eq_ok_iff_perm list eventLogs manifest).mp made with ⟨_, same, logs⟩
    exact ⟨logs, canonical_grouped same, manifest.shows_grouped⟩
  reordered _ _ := ofValues_eq_ok_of_perm

/-- What is read from a document that lists these values and log entries under their banks. -/
structure Reflects (manifest : PcrManifest) (values : Grouping PcrValue)
    (entries : Grouping EventLogEntry) : Prop where
  canonical : manifest.grouped.Canonical (Grouping.items (PcrBank.latest values))
  shows_grouped : manifest.Shows manifest.grouped
  reordered : ∀ (other : Json.Document) revalues, other.ended → Reordered values revalues →
    Lists other.root revalues entries → other.read read = .ok manifest

/-- Lists of values and documents alike make canonical manifests. Of a document it does not matter
in what order its arrays list the values. -/
theorem canonical_of_values_or_document :
    (∀ list eventLogs, Settles list eventLogs) ∧
    ∀ (document : Json.Document) manifest, document.read read = .ok manifest →
      (∃ values entries, Lists document.root values entries) ∧
      ∀ values entries, Lists document.root values entries →
        manifest.Reflects values entries := by
  refine ⟨settles, fun document manifest accepted => ?_⟩
  have readRoot := Json.Document.read_root_of_read accepted
  rcases keeps_of_read readRoot with ⟨values, entries, lists, -, -⟩
  refine ⟨⟨values, entries, lists⟩, fun values entries lists => ?_⟩
  rcases (read_eq_ok_iff_of_lists lists manifest).mp readRoot with ⟨-, -, made⟩
  have settled := (settles _ _).canonical manifest made
  exact ⟨settled.2.1, settled.2.2, fun other revalues ended reordered relists =>
    Json.Document.read_of_ok (read_of_reordered lists readRoot relists reordered) ended⟩

/-- A document with one array of values. -/
def listing (bank : PcrBank) (values : List PcrValue) : Json.Document :=
  (Json.object [("pcrs",
    .object [(bank.bankName, .array (values.map PcrValue.toJson))])]).written

theorem lists_listing (bank : PcrBank) (values : List PcrValue) :
    Lists (listing bank values).root [(bank, values)] [] := by
  have arrays : ∀ items : List PcrValue, Json.Returns
      (Json.Reader.list PcrValue.read (Json.array (items.map PcrValue.toJson)).toSource) True items :=
    fun items => (Json.Reader.returns_list items fun item _ => item.returns_read).congr (by simp)
  have listed : PcrBank.listMembers (Json.Reader.list PcrValue.read)
      (Json.sourceMembers [(bank.bankName, .array (values.map PcrValue.toJson))]) =
        .ok [(bank, values)] :=
    PcrBank.listMembers_written arrays [(bank, values)]
  refine ⟨_, none, .object (by simp [Json.sourceMembers, Json.sourceMember]) ?_ rfl rfl, ?_, rfl⟩
  · intro member listed notFirst
    cases List.mem_singleton.mp listed
    exact absurd rfl notFirst
  · change (do let listed ← PcrBank.listMembers _ _; _) = _
    rw [listed]
    rfl

/-- The value of a register of one bank that was never extended. -/
def unextended (index : PcrIndex) : PcrValue :=
  ⟨⟨index, .sha1⟩, HashAlgorithm.zeroDigest .sha1, HashAlgorithm.length_zeroDigest .sha1⟩

/-- Two values in the order of their registers. -/
def unextendedPair : PcrManifest where
  values := ⟨[unextended ⟨6, by decide⟩, unextended ⟨11, by decide⟩], by decide⟩
  eventLogs := .empty

theorem canonical_of_reversed_pair :
    ofValues unextendedPair.values.items.reverse .empty = .ok unextendedPair ∧
    ofValues unextendedPair.values.items .empty = .ok unextendedPair ∧
    unextendedPair.grouped.Canonical unextendedPair.values.items.reverse ∧
    (listing .sha1 unextendedPair.values.items.reverse).read read = .ok unextendedPair ∧
    (listing .sha1 unextendedPair.values.items).read read = .ok unextendedPair := by
  have same := List.reverse_perm unextendedPair.values.items
  have made : ofValues unextendedPair.values.items.reverse .empty = .ok unextendedPair := by
    decide
  have lists := lists_listing .sha1 unextendedPair.values.items.reverse
  have relists := lists_listing .sha1 unextendedPair.values.items
  have accepted : (listing .sha1 unextendedPair.values.items.reverse).read read =
      .ok unextendedPair :=
    Json.Document.read_of_ok ((read_eq_ok_iff_of_lists lists _).mpr ⟨rfl, by decide, made⟩) rfl
  have reordered : Reordered [(.sha1, unextendedPair.values.items.reverse)]
      [(.sha1, unextendedPair.values.items)] :=
    .cons ⟨rfl, same⟩ .nil
  rcases canonical_of_values_or_document with ⟨settled, reflected⟩
  have reflects := (reflected _ _ accepted).2 _ _ lists
  exact ⟨made, (settled _ _).reordered _ _ made same.symm, reflects.canonical, accepted,
    reflects.reordered _ _ rfl reordered relists⟩

end PcrManifest

end HostAttestation
