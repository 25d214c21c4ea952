import HostAttestation.Pcr.Table
import Mathlib.Data.List.Nodup
import Mathlib.Data.List.Sort

/-! # Looking up in a table

A table is known by what it gives for each register: two tables that give the same are equal.
Insertion changes what the table gives for the register of the inserted item, and nothing else. -/

namespace HostAttestation

/-- Lists in ascending order are known by what they hold. -/
theorem eq_of_ascending {α : Type} (key : α → Nat) {left right : List α}
    (leftAscending : left.Pairwise fun first second => key first < key second)
    (rightAscending : right.Pairwise fun first second => key first < key second)
    (same : ∀ item, item ∈ left ↔ item ∈ right) : left = right := by
  have irreflexive : Std.Irrefl fun first second : α => key first < key second :=
    ⟨fun _ => Nat.lt_irrefl _⟩
  have antisymmetric : Std.Antisymm fun first second : α => key first < key second :=
    ⟨fun _ _ before after => absurd after (Nat.lt_asymm before)⟩
  exact leftAscending.eq_of_mem_iff rightAscending same

namespace PcrTable

variable {α : Type} {pcrOf : α → PcrId}

theorem nodup_map_items (table : PcrTable α pcrOf) : (table.items.map pcrOf).Nodup := by
  rw [List.nodup_iff_pairwise_ne, List.pairwise_map]
  apply table.ordered.imp
  intro left right before same
  rw [same] at before
  exact Nat.lt_irrefl _ before

theorem eq_of_pcrOf_eq (table : PcrTable α pcrOf) {left right : α} (leftMember : left ∈ table.items)
    (rightMember : right ∈ table.items) (same : pcrOf left = pcrOf right) : left = right :=
  List.inj_on_of_nodup_map table.nodup_map_items leftMember rightMember same

theorem find?_eq_some_iff (table : PcrTable α pcrOf) (pcr : PcrId) (item : α) :
    table.find? pcr = some item ↔ item ∈ table.items ∧ pcrOf item = pcr := by
  constructor
  · intro found
    exact ⟨List.mem_of_find?_eq_some found, by simpa using List.find?_some found⟩
  · rintro ⟨member, rfl⟩
    cases found : table.find? (pcrOf item) with
    | none => simpa using List.find?_eq_none.mp found item member
    | some other =>
        have named : pcrOf other = pcrOf item := by simpa using List.find?_some found
        rw [table.eq_of_pcrOf_eq (List.mem_of_find?_eq_some found) member named]

theorem find?_eq_none_iff (table : PcrTable α pcrOf) (pcr : PcrId) :
    table.find? pcr = none ↔ ∀ item ∈ table.items, pcrOf item ≠ pcr := by
  simp [find?]

theorem mem_items_iff (table : PcrTable α pcrOf) (item : α) :
    item ∈ table.items ↔ table.find? (pcrOf item) = some item := by
  simp [find?_eq_some_iff]

@[simp]
theorem find?_empty (pcr : PcrId) : (empty : PcrTable α pcrOf).find? pcr = none :=
  rfl

/-- The items of a register are what the table gives for it. -/
theorem filter_items_eq (table : PcrTable α pcrOf) (pcr : PcrId) :
    (table.items.filter fun item => pcrOf item = pcr) = (table.find? pcr).toList := by
  have apart := table.ordered.filter fun item => decide (pcrOf item = pcr)
  cases remaining : table.items.filter fun item => decide (pcrOf item = pcr) with
  | nil =>
      have absent : table.find? pcr = none :=
        (table.find?_eq_none_iff pcr).mpr (by simpa using List.filter_eq_nil_iff.mp remaining)
      rw [absent]
      rfl
  | cons first rest =>
      have members : ∀ item ∈ first :: rest, item ∈ table.items ∧ pcrOf item = pcr := by
        intro item member
        rw [← remaining] at member
        simpa using member
      have found : table.find? pcr = some first :=
        (table.find?_eq_some_iff pcr first).mpr (members first List.mem_cons_self)
      have single : rest = [] := by
        rw [remaining] at apart
        refine List.eq_nil_iff_forall_not_mem.mpr fun other member => ?_
        have before := (List.pairwise_cons.mp apart).1 other member
        rw [(members first List.mem_cons_self).2,
          (members other (List.mem_cons_of_mem _ member)).2] at before
        exact Nat.lt_irrefl _ before
      rw [found, single]
      rfl

theorem eq_of_mem_items_iff {left right : PcrTable α pcrOf}
    (same : ∀ item, item ∈ left.items ↔ item ∈ right.items) : left = right := by
  have items : left.items = right.items :=
    eq_of_ascending (fun item => (pcrOf item).position) left.ordered right.ordered same
  cases left
  cases right
  simp_all

theorem eq_of_find?_eq {left right : PcrTable α pcrOf}
    (same : ∀ pcr, left.find? pcr = right.find? pcr) : left = right :=
  eq_of_mem_items_iff fun item => by rw [mem_items_iff, mem_items_iff, same]

theorem eq_of_items_perm {left right : PcrTable α pcrOf} (same : left.items.Perm right.items) :
    left = right :=
  eq_of_mem_items_iff fun _ => same.mem_iff

/-! ## Insertion -/

theorem find?_insertItem_of_ne (merge : α → α → α)
    (keeps : ∀ old new, pcrOf (merge old new) = pcrOf old) (item : α) (items : List α)
    {pcr : PcrId} (different : pcrOf item ≠ pcr) :
    (insertItem pcrOf merge item items).find? (fun other => pcrOf other = pcr) =
      items.find? fun other => pcrOf other = pcr := by
  induction items with
  | nil => simp [insertItem, different]
  | cons first rest induction =>
      rw [insertItem]
      split
      · simp [different]
      · split
        next same =>
          have firstDifferent : pcrOf first ≠ pcr := same ▸ different
          simp [keeps, firstDifferent]
        next =>
          rw [List.find?_cons, List.find?_cons, induction]

/-- An item of the same register can only stand before the items that come after it. -/
theorem find?_insertItem_self (merge : α → α → α)
    (keeps : ∀ old new, pcrOf (merge old new) = pcrOf old) (item : α) (items : List α)
    (ordered : items.Pairwise fun left right => (pcrOf left).position < (pcrOf right).position) :
    (insertItem pcrOf merge item items).find? (fun other => pcrOf other = pcrOf item) =
      some (((items.find? fun other => pcrOf other = pcrOf item).map (merge · item)).getD item) := by
  induction items with
  | nil => simp [insertItem]
  | cons first rest induction =>
      have headed := List.pairwise_cons.mp ordered
      rw [insertItem]
      split
      next before =>
        have later : ∀ other ∈ first :: rest, pcrOf other ≠ pcrOf item := by
          intro other member same
          rcases List.mem_cons.mp member with rfl | member
          · exact Nat.lt_irrefl _ (same ▸ before)
          · exact Nat.lt_asymm before (same ▸ headed.1 other member)
        have absent : ((first :: rest).find? fun other => pcrOf other = pcrOf item) = none :=
          List.find?_eq_none.mpr (by simpa using later)
        simp [absent]
      next =>
        split
        next same => simp [keeps, same]
        next different =>
          have skipped : decide (pcrOf first = pcrOf item) = false := by
            simpa using fun equal => different equal.symm
          rw [List.find?_cons, List.find?_cons, skipped]
          exact induction headed.2

theorem find?_insert (merge : α → α → α) (keeps : ∀ old new, pcrOf (merge old new) = pcrOf old)
    (table : PcrTable α pcrOf) (item : α) (pcr : PcrId) :
    (table.insert merge keeps item).find? pcr =
      if pcrOf item = pcr then some (((table.find? pcr).map (merge · item)).getD item)
      else table.find? pcr := by
  split
  next same =>
    subst same
    exact find?_insertItem_self merge keeps item table.items table.ordered
  next different => exact find?_insertItem_of_ne merge keeps item table.items different

/-- An item of a new register is added to the others. -/
theorem insertItem_perm (merge : α → α → α) (item : α) (items : List α)
    (new : ∀ other ∈ items, pcrOf other ≠ pcrOf item) :
    (insertItem pcrOf merge item items).Perm (item :: items) := by
  induction items with
  | nil => exact .refl _
  | cons first rest induction =>
      have later := List.forall_mem_cons.mp new
      rw [insertItem]
      split
      next => exact .refl _
      next =>
        rw [if_neg fun same => later.1 same.symm]
        exact ((induction later.2).cons first).trans (.swap item first rest)

/-- If merging puts parts together, insertion adds the parts of the item to those of the others. -/
theorem flatMap_insertItem_perm {β : Type} (parts : α → List β) (merge : α → α → α) (item : α)
    (merges : ∀ old, pcrOf item = pcrOf old → parts (merge old item) = parts old ++ parts item)
    (items : List α) :
    ((insertItem pcrOf merge item items).flatMap parts).Perm
      (items.flatMap parts ++ parts item) := by
  induction items with
  | nil => simp [insertItem]
  | cons first rest induction =>
      rw [insertItem]
      split
      next => exact List.perm_append_comm
      next =>
        split
        next same =>
          rw [List.flatMap_cons, List.flatMap_cons, merges first same, List.append_assoc,
            List.append_assoc]
          exact List.perm_append_comm.append_left _
        next =>
          rw [List.flatMap_cons, List.flatMap_cons, List.append_assoc]
          exact induction.append_left _

end PcrTable

end HostAttestation
