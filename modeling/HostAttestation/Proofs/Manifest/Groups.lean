import HostAttestation.Proofs.Manifest.Values
import HostAttestation.Proofs.Pcr.Collecting

/-! # Manifests group by group

A manifest can be kept as one group of values and one group of log entries for every bank. Its
values are then collected register by register, and questions about a register are answered from
the group of its bank. Whatever is asked, the answer is that of a manifest that is kept in tables. -/

namespace HostAttestation

structure GroupedManifest where
  values : Grouping PcrValue
  eventLogs : Grouping EventLogEntry
  deriving DecidableEq

def PcrManifest.grouped (manifest : PcrManifest) : GroupedManifest :=
  ⟨manifest.values.groups, manifest.eventLogs.groups⟩

namespace GroupedManifest

/-! ## Values that are collected -/

abbrev Collected := Std.TreeMap PcrId PcrValue (compareOn PcrId.place)

def collect (collected : Collected) (value : PcrValue) : Except Violation Collected :=
  match collected[value.pcr]? with
  | some _ => .error (.duplicateValue value.pcr)
  | none => .ok (collected.insert value.pcr value)

/-- What was collected, register by register, is put into groups. -/
def groupsOf (collected : Collected) : Grouping PcrValue :=
  (collected.toList.map Prod.snd).foldl (Grouping.push PcrValue.pcr) []

def ofValues (list : List PcrValue) (eventLogs : Grouping EventLogEntry) :
    Except Violation GroupedManifest := do
  let collected ← list.foldlM collect ∅
  pure ⟨groupsOf collected, eventLogs⟩

/-- As long as no register is repeated, the map holds what the table holds. -/
theorem foldlM_collect_eq {collected : Collected} {values : PcrValues}
    (holds : ∀ pcr, collected[pcr]? = values.find? pcr) (list : List PcrValue) :
    (list.foldlM collect collected).map groupsOf =
      (list.foldlM PcrValues.add values).map PcrTable.groups := by
  induction list generalizing collected values with
  | nil => exact congrArg Except.ok (PcrTable.foldl_push_collected holds)
  | cons value rest induction =>
      rw [List.foldlM_cons, List.foldlM_cons, collect, PcrValues.add, holds]
      cases found : values.find? value.pcr with
      | some other => rfl
      | none =>
          refine induction (PcrTable.getElem?_insert_of_find? holds (fun _ _ => rfl) ?_)
          rw [found]
          rfl

theorem ofValues_eq (list : List PcrValue) (eventLogs : EventLogMap) :
    ofValues list eventLogs.groups =
      (PcrManifest.ofValues list eventLogs).map PcrManifest.grouped := by
  have nothing : ∀ pcr, (∅ : Collected)[pcr]? = (PcrTable.empty : PcrValues).find? pcr :=
    fun _ => Std.TreeMap.getElem?_emptyc
  have inTwoSteps : ofValues list eventLogs.groups =
      ((list.foldlM collect ∅).map groupsOf).map fun values => ⟨values, eventLogs.groups⟩ := by
    rw [ofValues]
    cases list.foldlM collect ∅ <;> rfl
  rw [inTwoSteps, foldlM_collect_eq nothing, PcrManifest.ofValues, PcrValues.ofList]
  cases list.foldlM PcrValues.add .empty <;> rfl

/-! ## Questions -/

/-- In the group of the bank only the index is compared. -/
def value? (manifest : GroupedManifest) (pcr : PcrId) : Option PcrValue :=
  (manifest.values.ofBank pcr.bank).find? fun value => value.pcr.index = pcr.index

def banks (manifest : GroupedManifest) : List PcrBank :=
  manifest.values.map Prod.fst

def indexes (manifest : GroupedManifest) (bank : PcrBank) : List PcrIndex :=
  (manifest.values.ofBank bank).map fun value => value.pcr.index

def digest (algorithm : HashAlgorithm) (manifest : GroupedManifest) : Bytes :=
  PcrValue.digestAll algorithm manifest.values.items

def verifyEntry (manifest : GroupedManifest) (entry : EventLogEntry) : Except Violation Unit :=
  match manifest.value? entry.pcr with
  | none => .error (.missingValue entry.pcr)
  | some reported => do
      let replayed ← entry.replay
      if replayed = reported.digest then pure ()
      else .error (.replayMismatch entry.pcr reported.digest replayed)

def verifyEventLogs (manifest : GroupedManifest) : Except Violation Unit :=
  manifest.eventLogs.items.forM manifest.verifyEntry

end GroupedManifest

namespace PcrManifest

variable (manifest : PcrManifest)

theorem value?_grouped (pcr : PcrId) : manifest.grouped.value? pcr = manifest.values.find? pcr := by
  rw [GroupedManifest.value?, grouped, PcrTable.ofBank_groups, PcrTable.ofBank, List.find?_filter,
    PcrTable.find?]
  congr 1
  funext value
  rcases pcr with ⟨index, bank⟩
  rcases value with ⟨⟨otherIndex, otherBank⟩, digest, width⟩
  simp [and_comm]

theorem banks_grouped : manifest.grouped.banks = manifest.values.banks := by
  simp [GroupedManifest.banks, grouped, PcrTable.groups, Function.comp_def]

theorem indexes_grouped (bank : PcrBank) :
    manifest.grouped.indexes bank =
      (manifest.values.ofBank bank).map fun value => value.pcr.index := by
  rw [GroupedManifest.indexes, grouped, PcrTable.ofBank_groups]

theorem digest_grouped (algorithm : HashAlgorithm) :
    manifest.grouped.digest algorithm = manifest.digest algorithm := by
  rw [GroupedManifest.digest, grouped, PcrTable.items_groups, digest]

theorem verifyEntry_grouped (entry : EventLogEntry) :
    manifest.grouped.verifyEntry entry = verifyEntry manifest.values entry := by
  rw [GroupedManifest.verifyEntry, value?_grouped, verifyEntry]
  cases manifest.values.find? entry.pcr with
  | none => rfl
  | some reported => cases entry.replay <;> rfl

theorem verifyEventLogs_grouped :
    manifest.grouped.verifyEventLogs = manifest.verifyEventLogs := by
  rw [GroupedManifest.verifyEventLogs, funext manifest.verifyEntry_grouped, grouped,
    PcrTable.items_groups, verifyEventLogs]

end PcrManifest

end HostAttestation
