import HostAttestation.Proofs.Pcr.Groups

/-! # Collecting items by register

Items can be collected register by register in another order than that of a table, all banks of an
index before the next index. Put into groups in this order, they are the groups of the table that
has the same items. -/

namespace HostAttestation

/-- The place of a register if all banks of an index come before the next index. -/
def PcrId.place (pcr : PcrId) : Nat :=
  pcr.index.value * HashAlgorithm.all.length + pcr.bank.rank

theorem PcrId.place_lt_iff (left right : PcrId) :
    left.place < right.place ↔ left.index.value < right.index.value ∨
      left.index.value = right.index.value ∧ left.bank.rank < right.bank.rank := by
  have leftRank := left.bank.rank_lt_length_all
  have rightRank := right.bank.rank_lt_length_all
  unfold place
  simp only [HashAlgorithm.all, List.length_cons, List.length_nil] at *
  omega

theorem PcrId.place_injective {left right : PcrId} (same : left.place = right.place) :
    left = right := by
  have notBefore := (place_lt_iff left right).not.mp (Nat.not_lt_of_le same.ge)
  have notAfter := (place_lt_iff right left).not.mp (Nat.not_lt_of_le same.le)
  have indexes : left.index.value = right.index.value := by omega
  have ranks : left.bank.rank = right.bank.rank := by omega
  rcases left with ⟨⟨leftIndex, leftBelow⟩, leftBank⟩
  rcases right with ⟨⟨rightIndex, rightBelow⟩, rightBank⟩
  cases indexes
  cases HashAlgorithm.rank_injective ranks
  rfl

instance : Std.LawfulEqCmp (compareOn PcrId.place) where
  compare_self := Nat.compare_eq_eq.mpr rfl
  eq_of_compare same := PcrId.place_injective (Nat.compare_eq_eq.mp same)

namespace PcrTable

variable {α : Type} {pcrOf : α → PcrId} {table : PcrTable α pcrOf}
  {collected : Std.TreeMap PcrId α (compareOn PcrId.place)}

/-- What is put in is what the table has for the register afterwards, whether it is new there or
merged into an older item. -/
theorem getElem?_insert_of_find? (holds : ∀ pcr, collected[pcr]? = table.find? pcr)
    {merge : α → α → α} (keeps : ∀ old new, pcrOf (merge old new) = pcrOf old) {item value : α}
    (settled : value = ((table.find? (pcrOf item)).map (merge · item)).getD item) (pcr : PcrId) :
    (collected.insert (pcrOf item) value)[pcr]? = (table.insert merge keeps item).find? pcr := by
  rw [find?_insert, Std.TreeMap.getElem?_insert, holds]
  simp only [Std.LawfulEqCmp.compare_eq_iff_eq]
  by_cases named : pcrOf item = pcr
  · subst named
    rw [if_pos rfl, if_pos rfl, settled]
  · rw [if_neg named, if_neg named]

theorem mem_toList_collected_iff (holds : ∀ pcr, collected[pcr]? = table.find? pcr) (pcr : PcrId)
    (item : α) : (pcr, item) ∈ collected.toList ↔ item ∈ table.items ∧ pcrOf item = pcr := by
  rw [Std.TreeMap.mem_toList_iff_getElem?_eq_some, holds, find?_eq_some_iff]

theorem ascending_collected (holds : ∀ pcr, collected[pcr]? = table.find? pcr) :
    (collected.toList.map Prod.snd).Pairwise fun left right =>
      (pcrOf left).bank = (pcrOf right).bank →
        (pcrOf left).index.value < (pcrOf right).index.value := by
  refine List.pairwise_map.mpr (Std.TreeMap.ordered_keys_toList.imp_of_mem ?_)
  intro left right leftMember rightMember before sameBank
  rw [← ((mem_toList_collected_iff holds left.1 left.2).mp leftMember).2,
    ← ((mem_toList_collected_iff holds right.1 right.2).mp rightMember).2] at before
  -- banks of one index are collected side by side, but here the bank is the same
  rcases (PcrId.place_lt_iff _ _).mp (Nat.compare_eq_lt.mp before) with smaller | ⟨_, earlier⟩
  · exact smaller
  · rw [sameBank] at earlier
    exact absurd earlier (Nat.lt_irrefl _)

theorem foldl_push_collected (holds : ∀ pcr, collected[pcr]? = table.find? pcr) :
    (collected.toList.map Prod.snd).foldl (Grouping.push pcrOf) [] = table.groups := by
  refine foldl_push_eq_groups table (ascending_collected holds) fun item => ?_
  simp [mem_toList_collected_iff holds]

end PcrTable

end HostAttestation
