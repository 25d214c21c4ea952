import HostAttestation.Proofs.EventLog.Grouping
import HostAttestation.Proofs.Json.Fields
import HostAttestation.Proofs.Pcr.Listing

/-! # Event logs in documents

The entries of a document are collected bank by bank. They are refused if one of them is listed
under another bank than its own, or belongs to a register that was listed before. -/

namespace HostAttestation

/-- Refuses a register that is listed again. -/
def PcrId.unlessAgain {α : Type} (refuse : PcrId → Violation) (value : α) :
    Option PcrId → Except Violation α
  | none => .ok value
  | some pcr => .error (refuse pcr)

namespace EventLogMap

open Grouping (Own)
open PcrId (unlessAgain again?)

/-- The entries of all collected banks. -/
def collectGroups (seen : List EventLogEntry) (groups : Grouping EventLogEntry) :
    Except Violation (List EventLogEntry) :=
  groups.foldlM (fun seen group => checkGroup group.1 seen group.2) seen

theorem checkGroup_eq {bank : PcrBank} {entries : List EventLogEntry}
    (own : ∀ entry ∈ entries, entry.pcr.bank = bank) (seen : List EventLogEntry) :
    checkGroup bank seen entries = unlessAgain .duplicateEventLog (seen ++ entries)
      (again? (seen.map EventLogEntry.pcr) (entries.map EventLogEntry.pcr)) := by
  induction entries generalizing seen with
  | nil => simp [checkGroup, again?, unlessAgain]
  | cons entry rest induction =>
      have headed := List.forall_mem_cons.mp own
      rw [checkGroup, List.map_cons, again?, if_neg (not_not_intro headed.1)]
      by_cases listed : entry.pcr ∈ seen.map EventLogEntry.pcr
      · have found : (seen.any fun other => other.pcr = entry.pcr) = true := by
          simpa using listed
        rw [if_pos found, if_pos listed, unlessAgain]
      · have absent : ¬(seen.any fun other => other.pcr = entry.pcr) = true := by
          simpa using listed
        rw [if_neg absent, if_neg listed, induction headed.2, List.map_append, List.append_assoc,
          List.map_singleton, List.singleton_append]

theorem own_of_checkGroup_eq_ok {bank : PcrBank} {seen entries result : List EventLogEntry}
    (collected : checkGroup bank seen entries = .ok result) :
    ∀ entry ∈ entries, entry.pcr.bank = bank := by
  induction entries generalizing seen with
  | nil => exact nofun
  | cons entry rest induction =>
      rw [checkGroup] at collected
      split at collected
      · cases collected
      next own =>
        split at collected
        · cases collected
        · exact List.forall_mem_cons.mpr ⟨not_not.mp own, induction collected⟩

theorem collectGroups_eq {groups : Grouping EventLogEntry} (own : Own EventLogEntry.pcr groups)
    (seen : List EventLogEntry) :
    collectGroups seen groups = unlessAgain .duplicateEventLog (seen ++ groups.items)
      (again? (seen.map EventLogEntry.pcr) (groups.items.map EventLogEntry.pcr)) := by
  induction groups generalizing seen with
  | nil => simp [collectGroups, Grouping.items, again?, unlessAgain, pure, Except.pure]
  | cons group rest induction =>
      have headed := List.forall_mem_cons.mp own
      rw [collectGroups, List.foldlM_cons, checkGroup_eq headed.1, Grouping.items_cons,
        List.map_append, PcrId.again?_append]
      cases again? (seen.map EventLogEntry.pcr) (group.2.map EventLogEntry.pcr) with
      | some pcr => rfl
      | none =>
          change collectGroups (seen ++ group.2) rest = _
          rw [induction headed.2, List.append_assoc, List.map_append, Option.none_or]

theorem own_of_collectGroups_eq_ok {groups : Grouping EventLogEntry}
    {seen result : List EventLogEntry} (collected : collectGroups seen groups = .ok result) :
    Own EventLogEntry.pcr groups := by
  induction groups generalizing seen with
  | nil => exact nofun
  | cons group rest induction =>
      rw [collectGroups, List.foldlM_cons] at collected
      rcases Outcome.bind_eq_ok_iff.mp collected with ⟨between, first, remaining⟩
      exact List.forall_mem_cons.mpr ⟨own_of_checkGroup_eq_ok first, induction remaining⟩

/-- Entries of different registers are not merged. -/
theorem ofEntries_perm {entries : List EventLogEntry}
    (distinct : (entries.map EventLogEntry.pcr).Nodup) :
    (ofEntries entries).items.Perm entries := by
  induction entries using List.reverseRecOn with
  | nil => exact .refl _
  | append_singleton entries entry induction =>
      rw [List.map_append, List.map_singleton] at distinct
      have same := induction distinct.of_append_left
      have new : ∀ other ∈ (ofEntries entries).items, other.pcr ≠ entry.pcr := by
        intro other member equal
        have listed := List.mem_map.mpr ⟨other, same.mem_iff.mp member, equal⟩
        exact List.disjoint_of_nodup_append distinct listed List.mem_cons_self
      rw [ofEntries_concat]
      have added := PcrTable.insertItem_perm EventLogEntry.merge entry _ new
      exact (added.trans (same.cons entry)).trans (List.perm_append_singleton entry entries).symm

theorem ofGroups_eq {groups : Grouping EventLogEntry} (own : Own EventLogEntry.pcr groups) :
    ofGroups groups = unlessAgain .duplicateEventLog (ofEntries groups.items)
      (again? [] (groups.items.map EventLogEntry.pcr)) := by
  change (do let entries ← collectGroups [] groups; pure (ofEntries entries)) = _
  rw [collectGroups_eq own, List.map_nil, List.nil_append]
  cases again? [] (groups.items.map EventLogEntry.pcr) <;> rfl

theorem perm_of_ofGroups_eq_ok {groups : Grouping EventLogEntry} {map : EventLogMap}
    (collected : ofGroups groups = .ok map) :
    Own EventLogEntry.pcr groups ∧ map.items.Perm groups.items := by
  rcases Outcome.bind_eq_ok_iff.mp collected with ⟨entries, gathered, -⟩
  have own := own_of_collectGroups_eq_ok gathered
  rw [ofGroups_eq own] at collected
  cases repeated : again? [] (groups.items.map EventLogEntry.pcr) with
  | some pcr =>
      rw [repeated] at collected
      cases collected
  | none =>
      rw [repeated] at collected
      cases collected
      exact ⟨own, ofEntries_perm ((PcrId.again?_eq_none_iff .nil _).mp repeated)⟩

/-! ## Documents -/

/-- What a document lists for the banks, whether or not it is read. -/
def Lists (source : Json.Source) (listed : Grouping EventLogEntry) : Prop :=
  PcrBank.listing (Json.Reader.list EventLogEntry.read) source = .ok listed

theorem read_of_lists {source : Json.Source} {listed : Grouping EventLogEntry}
    (lists : Lists source listed) :
    read source = (ofGroups (PcrBank.latest listed)).mapError .refused := by
  apply Json.Reader.checked_of_read
  rw [PcrBank.readGroups_eq, lists]
  rfl

theorem keeps_of_read {source : Json.Source} {map : EventLogMap}
    (accepted : read source = .ok map) : ∃ listed, Lists source listed ∧ Keeps listed map := by
  rcases Json.Reader.checked_eq_ok_iff.mp accepted with ⟨groups, grouped, collected⟩
  rw [PcrBank.readGroups_eq] at grouped
  rcases Outcome.map_eq_ok_iff.mp grouped with ⟨listed, lists, rfl⟩
  rcases perm_of_ofGroups_eq_ok collected with ⟨own, same⟩
  exact ⟨listed, lists, keeps_of_perm own same⟩

theorem read_of_repeated {source : Json.Source} {listed : Grouping EventLogEntry}
    (lists : Lists source listed) (once : PcrBank.Once listed) (own : Own EventLogEntry.pcr listed)
    (repeated : ¬(listed.items.map EventLogEntry.pcr).Nodup) :
    ∃ pcr, (listed.items.map EventLogEntry.pcr).Duplicate pcr ∧
      read source = .error (.refused (.duplicateEventLog pcr)) := by
  have same := (items_latest_perm once).map EventLogEntry.pcr
  rcases PcrId.exists_again?_of_perm same repeated with ⟨pcr, found, duplicate⟩
  refine ⟨pcr, duplicate, ?_⟩
  rw [read_of_lists lists, ofGroups_eq (own_latest own), found]
  rfl

theorem exists_read_of_distinct {source : Json.Source} {listed : Grouping EventLogEntry}
    (lists : Lists source listed) (once : PcrBank.Once listed) (own : Own EventLogEntry.pcr listed)
    (distinct : (listed.items.map EventLogEntry.pcr).Nodup) : ∃ map, read source = .ok map := by
  have same := (items_latest_perm once).map EventLogEntry.pcr
  have unrepeated := (PcrId.again?_eq_none_iff .nil _).mpr (same.nodup_iff.mpr distinct)
  refine ⟨ofEntries (Grouping.items (PcrBank.latest listed)), ?_⟩
  rw [read_of_lists lists, ofGroups_eq (own_latest own), unrepeated]
  rfl

/-- What is decoded from a text is what the text lists, except for the arrays of a bank that is
listed again under another key. If there are none, the text is accepted exactly if every entry is
listed under its own bank and no register is listed twice. -/
structure Faithful (text : Bytes) : Prop where
  keeps : ∀ map, (Json.parse text).read read = .ok map →
    ∃ listed, Lists (Json.parse text).root listed ∧ Keeps listed map
  accepts : ∀ listed, (Json.parse text).ended → Lists (Json.parse text).root listed →
    PcrBank.Once listed → Own EventLogEntry.pcr listed →
    (listed.items.map EventLogEntry.pcr).Nodup → ∃ map, (Json.parse text).read read = .ok map
  refuses : ∀ listed, Lists (Json.parse text).root listed → PcrBank.Once listed →
    Own EventLogEntry.pcr listed → ¬(listed.items.map EventLogEntry.pcr).Nodup →
      ∃ pcr, (listed.items.map EventLogEntry.pcr).Duplicate pcr ∧
        (Json.parse text).read read = .error (.refused (.duplicateEventLog pcr))

theorem faithful (text : Bytes) : Faithful text where
  keeps _ accepted := keeps_of_read (Json.Document.read_root_of_read accepted)
  accepts _ ended lists once own distinct := by
    rcases exists_read_of_distinct lists once own distinct with ⟨map, accepted⟩
    exact ⟨map, Json.Document.read_of_ok accepted ended⟩
  refuses _ lists once own repeated := by
    rcases read_of_repeated lists once own repeated with ⟨pcr, duplicate, refused⟩
    exact ⟨pcr, duplicate, Json.Document.read_of_error refused⟩

end EventLogMap

end HostAttestation
