import HostAttestation.Proofs.Pcr.Table

/-! # Values by bank

Lists of values that belong to banks. If no bank has two of them and the banks are in their order,
the list is known by what it gives for each bank. Setting a value changes what the list gives for
its bank, and nothing else. -/

namespace HostAttestation

theorem HashAlgorithm.rank_injective {left right : PcrBank} (same : left.rank = right.rank) :
    left = right := by
  cases left <;> cases right <;> simp_all [rank]

theorem HashAlgorithm.rank_lt_length_all (bank : PcrBank) : bank.rank < all.length := by
  cases bank <;> decide

theorem HashAlgorithm.mem_all (bank : PcrBank) : bank ∈ all := by
  cases bank <;> decide

namespace PcrBank

variable {α : Type} {groups : List (PcrBank × α)} {bank : PcrBank} {value : α}

def Ascending (groups : List (PcrBank × α)) : Prop :=
  groups.Pairwise fun left right => left.1.rank < right.1.rank

/-- No bank has two values. -/
def Once (groups : List (PcrBank × α)) : Prop :=
  (groups.map Prod.fst).Nodup

instance (groups : List (PcrBank × α)) : Decidable (Once groups) :=
  inferInstanceAs (Decidable (List.Nodup _))

theorem Ascending.once (ascending : Ascending groups) : Once groups := by
  rw [Once, List.nodup_iff_pairwise_ne, List.pairwise_map]
  apply ascending.imp
  intro left right before same
  rw [same] at before
  exact Nat.lt_irrefl _ before

/-- What the list gives for a bank. -/
def group? (groups : List (PcrBank × α)) (bank : PcrBank) : Option α :=
  (groups.find? fun group => group.1 = bank).map Prod.snd

theorem group?_cons (first : PcrBank × α) (rest : List (PcrBank × α)) (bank : PcrBank) :
    group? (first :: rest) bank = if first.1 = bank then some first.2 else group? rest bank := by
  unfold group?
  by_cases named : first.1 = bank
  · simp [named]
  · simp [named]

theorem mem_of_group? (given : group? groups bank = some value) : (bank, value) ∈ groups := by
  rcases Option.map_eq_some_iff.mp given with ⟨group, found, rfl⟩
  have named : group.1 = bank := by simpa using List.find?_some found
  rw [← named]
  exact List.mem_of_find?_eq_some found

theorem group?_eq_some_iff (once : Once groups) :
    group? groups bank = some value ↔ (bank, value) ∈ groups := by
  refine ⟨mem_of_group?, fun member => ?_⟩
  induction groups with
  | nil => cases member
  | cons first rest induction =>
      have headed := List.nodup_cons.mp once
      rw [group?_cons]
      rcases List.mem_cons.mp member with rfl | later
      · exact if_pos rfl
      · have different : first.1 ≠ bank := fun same =>
          headed.1 (List.mem_map.mpr ⟨_, later, same.symm⟩)
        rw [if_neg different]
        exact induction headed.2 later

/-- Such a list is known by what it gives. -/
theorem eq_of_group?_eq {left right : List (PcrBank × α)} (leftAscending : Ascending left)
    (rightAscending : Ascending right) (same : ∀ bank, group? left bank = group? right bank) :
    left = right := by
  refine eq_of_ascending (fun group : PcrBank × α => group.1.rank) leftAscending rightAscending
    fun group => ?_
  rw [← group?_eq_some_iff leftAscending.once, ← group?_eq_some_iff rightAscending.once, same]

/-! ## Values that are set -/

theorem group?_setGroup (groups : List (PcrBank × α)) (bank other : PcrBank) (value : α) :
    group? (setGroup bank value groups) other =
      if bank = other then some value else group? groups other := by
  induction groups with
  | nil => simp [setGroup, group?]
  | cons first rest induction =>
      rw [setGroup]
      split
      · rw [group?_cons]
      · split
        next same =>
          rw [group?_cons, group?_cons, ← same]
          split <;> rfl
        next different =>
          rw [group?_cons, group?_cons, induction]
          by_cases named : first.1 = other
          · rw [if_pos named, if_pos named, if_neg fun same => different (same.trans named.symm)]
          · rw [if_neg named, if_neg named]

theorem eq_or_mem_of_mem_setGroup {group : PcrBank × α}
    (member : group ∈ setGroup bank value groups) : group = (bank, value) ∨ group ∈ groups := by
  induction groups with
  | nil => exact .inl (List.mem_singleton.mp member)
  | cons first rest induction =>
      rw [setGroup] at member
      split at member
      · exact List.mem_cons.mp member
      · split at member
        · exact (List.mem_cons.mp member).imp_right (List.mem_cons_of_mem _)
        · rcases List.mem_cons.mp member with rfl | later
          · exact .inr List.mem_cons_self
          · exact (induction later).imp_right (List.mem_cons_of_mem _)

theorem ascending_setGroup (ascending : Ascending groups) (bank : PcrBank) (value : α) :
    Ascending (setGroup bank value groups) := by
  induction groups with
  | nil => simp [setGroup, Ascending]
  | cons first rest induction =>
      have headed := List.pairwise_cons.mp ascending
      rw [setGroup]
      split
      next before =>
        refine List.pairwise_cons.mpr ⟨fun group member => ?_, ascending⟩
        rcases List.mem_cons.mp member with rfl | later
        · exact before
        · exact Nat.lt_trans before (headed.1 group later)
      next notBefore =>
        split
        next same => exact List.pairwise_cons.mpr ⟨same ▸ headed.1, headed.2⟩
        next different =>
          refine List.pairwise_cons.mpr ⟨fun group member => ?_, induction headed.2⟩
          rcases eq_or_mem_of_mem_setGroup member with rfl | listed
          · have apart : first.1.rank ≠ bank.rank :=
              fun ranks => different (HashAlgorithm.rank_injective ranks).symm
            exact Nat.lt_of_le_of_ne (Nat.le_of_not_lt notBefore) apart
          · exact headed.1 group listed

end PcrBank

end HostAttestation
