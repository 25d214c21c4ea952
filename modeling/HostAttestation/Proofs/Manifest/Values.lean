import HostAttestation.PcrManifest
import HostAttestation.Proofs.Outcome
import HostAttestation.Proofs.Pcr.Table

/-! # Collecting register values

Values are collected exactly if no register is reported twice, and refused for the first register
that is. None is lost, added or changed, and the order in which they are reported does not
matter. -/

namespace HostAttestation

namespace PcrValues

/-- A value of a new register is added, whatever place it gets. -/
theorem exists_add_eq_ok {values : PcrValues} {value : PcrValue}
    (unlisted : value.pcr ∉ values.items.map PcrValue.pcr) :
    ∃ result, values.add value = .ok result ∧ result.items.Perm (value :: values.items) := by
  have new : ∀ other ∈ values.items, other.pcr ≠ value.pcr := fun other member same =>
    unlisted (List.mem_map.mpr ⟨other, member, same⟩)
  rw [add, (PcrTable.find?_eq_none_iff values value.pcr).mpr new]
  exact ⟨_, rfl, PcrTable.insertItem_perm (fun old _ => old) value values.items new⟩

theorem add_eq_error_iff (values : PcrValues) (value : PcrValue) (violation : Violation) :
    values.add value = .error violation ↔
      value.pcr ∈ values.items.map PcrValue.pcr ∧ .duplicateValue value.pcr = violation := by
  rw [add]
  cases found : values.find? value.pcr with
  | none =>
      have unlisted := (PcrTable.find?_eq_none_iff values value.pcr).mp found
      have absent : value.pcr ∉ values.items.map PcrValue.pcr := by simpa using unlisted
      simp [absent]
  | some other =>
      rcases (PcrTable.find?_eq_some_iff values value.pcr other).mp found with ⟨member, named⟩
      have listed : value.pcr ∈ values.items.map PcrValue.pcr :=
        List.mem_map.mpr ⟨other, member, named⟩
      simp [listed]

theorem unlisted_of_add_eq_ok {values result : PcrValues} {value : PcrValue}
    (added : values.add value = .ok result) : value.pcr ∉ values.items.map PcrValue.pcr := by
  intro listed
  rw [(add_eq_error_iff values value _).mpr ⟨listed, rfl⟩] at added
  cases added

theorem perm_of_add_eq_ok {values result : PcrValues} {value : PcrValue}
    (added : values.add value = .ok result) : result.items.Perm (value :: values.items) := by
  rcases exists_add_eq_ok (unlisted_of_add_eq_ok added) with ⟨other, otherAdded, same⟩
  rw [added] at otherAdded
  cases otherAdded
  exact same

theorem append_perm_of_add_eq_ok {values result : PcrValues} {value : PcrValue}
    (added : values.add value = .ok result) (rest : List PcrValue) :
    (result.items ++ rest).Perm (values.items ++ value :: rest) :=
  ((perm_of_add_eq_ok added).append_right rest).trans List.perm_middle.symm

theorem perm_of_foldlM_add_eq_ok {list : List PcrValue} {values result : PcrValues}
    (collected : list.foldlM add values = .ok result) :
    result.items.Perm (values.items ++ list) := by
  induction list generalizing values with
  | nil =>
      cases collected
      rw [List.append_nil]
  | cons value rest induction =>
      rw [List.foldlM_cons] at collected
      rcases Outcome.bind_eq_ok_iff.mp collected with ⟨next, added, remaining⟩
      exact (induction remaining).trans (append_perm_of_add_eq_ok added rest)

theorem exists_foldlM_add_eq_ok {list : List PcrValue} {values : PcrValues}
    (distinct : ((values.items ++ list).map PcrValue.pcr).Nodup) :
    ∃ result, list.foldlM add values = .ok result := by
  induction list generalizing values with
  | nil => exact ⟨values, rfl⟩
  | cons value rest induction =>
      have unlisted : value.pcr ∉ values.items.map PcrValue.pcr := by
        intro listed
        rw [List.map_append, List.map_cons] at distinct
        exact (List.disjoint_of_nodup_append distinct) listed List.mem_cons_self
      rcases exists_add_eq_ok unlisted with ⟨next, added, -⟩
      have moved := append_perm_of_add_eq_ok added rest
      rcases induction ((moved.map _).nodup_iff.mpr distinct) with ⟨result, collected⟩
      rw [List.foldlM_cons]
      exact ⟨result, Outcome.bind_eq_ok_iff.mpr ⟨next, added, collected⟩⟩

theorem exists_ofList_eq_ok {list : List PcrValue} (distinct : (list.map PcrValue.pcr).Nodup) :
    ∃ values, ofList list = .ok values :=
  exists_foldlM_add_eq_ok distinct

theorem ofList_eq_ok_iff (list : List PcrValue) (values : PcrValues) :
    ofList list = .ok values ↔ (list.map PcrValue.pcr).Nodup ∧ values.items.Perm list := by
  constructor
  · intro collected
    have same : values.items.Perm list := perm_of_foldlM_add_eq_ok collected
    exact ⟨(same.map _).nodup_iff.mp (PcrTable.nodup_map_items values), same⟩
  · rintro ⟨distinct, same⟩
    rcases exists_ofList_eq_ok distinct with ⟨other, collected⟩
    have otherSame : other.items.Perm list := perm_of_foldlM_add_eq_ok collected
    rw [collected, PcrTable.eq_of_items_perm (otherSame.trans same.symm)]

/-- The first value of a register that already has one is refused. -/
theorem ofList_eq_error_iff (list : List PcrValue) (violation : Violation) :
    ofList list = .error violation ↔
      ∃ before value after, list = before ++ value :: after ∧
        (before.map PcrValue.pcr).Nodup ∧ value.pcr ∈ before.map PcrValue.pcr ∧
        .duplicateValue value.pcr = violation := by
  rw [ofList, Outcome.foldlM_eq_error_iff]
  refine exists_congr fun before => exists_congr fun value => exists_congr fun after =>
    and_congr_right fun _ => ?_
  constructor
  · rintro ⟨reached, collected, refused⟩
    rcases (ofList_eq_ok_iff before reached).mp collected with ⟨distinct, same⟩
    rcases (add_eq_error_iff reached value violation).mp refused with ⟨listed, equal⟩
    exact ⟨distinct, (same.map _).mem_iff.mp listed, equal⟩
  · rintro ⟨distinct, listed, equal⟩
    rcases exists_ofList_eq_ok distinct with ⟨reached, collected⟩
    have same := ((ofList_eq_ok_iff before reached).mp collected).2
    exact ⟨reached, collected,
      (add_eq_error_iff reached value violation).mpr ⟨(same.map _).mem_iff.mpr listed, equal⟩⟩

end PcrValues

namespace PcrManifest

theorem ofValues_eq_ok_iff_perm (list : List PcrValue) (eventLogs : EventLogMap)
    (manifest : PcrManifest) :
    ofValues list eventLogs = .ok manifest ↔
      (list.map PcrValue.pcr).Nodup ∧ manifest.values.items.Perm list ∧
        manifest.eventLogs = eventLogs := by
  rw [ofValues, Outcome.map_eq_ok_iff]
  constructor
  · rintro ⟨values, collected, rfl⟩
    rcases (PcrValues.ofList_eq_ok_iff list values).mp collected with ⟨distinct, same⟩
    exact ⟨distinct, same, rfl⟩
  · rintro ⟨distinct, same, rfl⟩
    exact ⟨manifest.values, (PcrValues.ofList_eq_ok_iff list _).mpr ⟨distinct, same⟩, rfl⟩

theorem exists_ofValues_eq_ok_iff (list : List PcrValue) (eventLogs : EventLogMap) :
    (∃ manifest, ofValues list eventLogs = .ok manifest) ↔ (list.map PcrValue.pcr).Nodup := by
  constructor
  · rintro ⟨manifest, made⟩
    exact ((ofValues_eq_ok_iff_perm list eventLogs manifest).mp made).1
  · intro distinct
    rcases PcrValues.exists_ofList_eq_ok distinct with ⟨values, collected⟩
    exact ⟨⟨values, eventLogs⟩, Outcome.map_eq_ok_iff.mpr ⟨values, collected, rfl⟩⟩

theorem ofValues_eq_error_iff (list : List PcrValue) (eventLogs : EventLogMap)
    (violation : Violation) :
    ofValues list eventLogs = .error violation ↔ PcrValues.ofList list = .error violation := by
  rw [ofValues]
  cases PcrValues.ofList list <;> simp [Except.map]

theorem ofValues_eq_ok_of_perm {list other : List PcrValue} {eventLogs : EventLogMap}
    {manifest : PcrManifest} (made : ofValues list eventLogs = .ok manifest)
    (same : other.Perm list) : ofValues other eventLogs = .ok manifest := by
  rw [ofValues_eq_ok_iff_perm] at made ⊢
  rcases made with ⟨distinct, held, logs⟩
  exact ⟨(same.map _).nodup_iff.mpr distinct, held.trans same.symm, logs⟩

end PcrManifest

end HostAttestation
