import HostAttestation.Proofs.Pcr.Banks
import Mathlib.Algebra.GroupWithZero.Nat

/-! # Tables group by group

The items of a table bank by bank, as they stand in a document. A grouping is in order if its banks
and the indexes within each of them ascend, and no group is empty or holds items of another bank.
The groups of a table are in order, and they are all that there is to know about the table. -/

namespace HostAttestation

/-- An item of an earlier bank, or of the same bank and with a smaller index, comes first. -/
def PcrId.Before (left right : PcrId) : Prop :=
  left.bank.rank < right.bank.rank ∨
    left.bank = right.bank ∧ left.index.value < right.index.value

theorem PcrId.position_lt_iff (left right : PcrId) :
    left.position < right.position ↔ left.Before right := by
  have leftBelow := left.index.below
  have rightBelow := right.index.below
  unfold position Before
  unfold pcrCount at *
  constructor
  · intro before
    by_cases same : left.bank = right.bank
    · right
      rw [same] at before
      exact ⟨same, by omega⟩
    · left
      have different : left.bank.rank ≠ right.bank.rank :=
        fun ranks => same (HashAlgorithm.rank_injective ranks)
      omega
  · intro before
    rcases before with earlier | ⟨same, smaller⟩
    · omega
    · rw [same]
      omega

/-- Items bank by bank. -/
abbrev Grouping (α : Type) := List (PcrBank × List α)

namespace Grouping

open PcrBank (Ascending group? setGroup group?_eq_some_iff group?_setGroup)

variable {α : Type} {pcrOf : α → PcrId} {groups : Grouping α} {bank : PcrBank}

/-- The items of one bank. -/
def ofBank (groups : Grouping α) (bank : PcrBank) : List α :=
  (group? groups bank).getD []

/-- All items, bank by bank. -/
def items (groups : Grouping α) : List α :=
  groups.flatMap Prod.snd

@[simp]
theorem ofBank_nil (bank : PcrBank) : ofBank ([] : Grouping α) bank = [] :=
  rfl

def size (groups : Grouping α) : Nat :=
  (groups.map fun group => group.2.length).sum

def lookup? (pcrOf : α → PcrId) (groups : Grouping α) (pcr : PcrId) : Option α :=
  (groups.ofBank pcr.bank).find? fun item => pcrOf item = pcr

/-- Leaves out the items that are not kept, and then the groups that have become empty. -/
def retain (keep : α → Bool) (groups : Grouping α) : Grouping α :=
  (groups.map fun group => (group.1, group.2.filter keep)).filter fun group => !group.2.isEmpty

/-- Puts an item at the end of the group of its bank. -/
def push (pcrOf : α → PcrId) (groups : Grouping α) (item : α) : Grouping α :=
  setGroup (pcrOf item).bank (groups.ofBank (pcrOf item).bank ++ [item]) groups

/-- Every item is listed under its own bank. -/
def Own (pcrOf : α → PcrId) (groups : Grouping α) : Prop :=
  ∀ group ∈ groups, ∀ item ∈ group.2, (pcrOf item).bank = group.1

instance (pcrOf : α → PcrId) (groups : Grouping α) : Decidable (Own pcrOf groups) :=
  inferInstanceAs (Decidable (∀ group ∈ groups, ∀ item ∈ group.2, _ = group.1))

/-- Every group is where it should be, and holds what it should hold. -/
structure InOrder (pcrOf : α → PcrId) (groups : Grouping α) : Prop where
  banks : Ascending groups
  filled : ∀ group ∈ groups, group.2 ≠ []
  own : Own pcrOf groups
  ascending : ∀ group ∈ groups, group.2.Pairwise fun left right =>
    (pcrOf left).index.value < (pcrOf right).index.value

namespace InOrder

theorem group?_eq (order : InOrder pcrOf groups) (bank : PcrBank) :
    group? groups bank =
      if groups.ofBank bank = [] then none else some (groups.ofBank bank) := by
  unfold ofBank
  cases given : group? groups bank with
  | none => rfl
  | some items =>
      have filled := order.filled _ (PcrBank.mem_of_group? given)
      exact (if_neg filled).symm

/-- Groups in order are known by the items of each bank. -/
theorem ext {left right : Grouping α} (leftOrder : InOrder pcrOf left)
    (rightOrder : InOrder pcrOf right) (same : ∀ bank, left.ofBank bank = right.ofBank bank) :
    left = right := by
  refine PcrBank.eq_of_group?_eq leftOrder.banks rightOrder.banks fun bank => ?_
  rw [leftOrder.group?_eq, rightOrder.group?_eq, same]

/-- To be in order is a matter of the banks, if no group is empty. -/
theorem of_ofBank (banks : Ascending groups) (filled : ∀ group ∈ groups, group.2 ≠ [])
    (own : ∀ bank, ∀ item ∈ groups.ofBank bank, (pcrOf item).bank = bank)
    (ascending : ∀ bank, (groups.ofBank bank).Pairwise fun left right =>
      (pcrOf left).index.value < (pcrOf right).index.value) : InOrder pcrOf groups := by
  have whole : ∀ group ∈ groups, groups.ofBank group.1 = group.2 := by
    intro group member
    rw [ofBank, (group?_eq_some_iff banks.once).mpr member]
    rfl
  refine ⟨banks, filled, fun group member => ?_, fun group member => ?_⟩
  · rw [← whole group member]
    exact own group.1
  · rw [← whole group member]
    exact ascending group.1

end InOrder

/-! ## Items that are put at the end -/

theorem ofBank_push (groups : Grouping α) (item : α) (bank : PcrBank) :
    (groups.push pcrOf item).ofBank bank =
      groups.ofBank bank ++ [item].filter fun item => (pcrOf item).bank = bank := by
  rw [ofBank, push, group?_setGroup]
  by_cases own : (pcrOf item).bank = bank
  · subst own
    simp
  · simp [own, ofBank]

theorem ofBank_foldl_push (items : List α) (groups : Grouping α) (bank : PcrBank) :
    (items.foldl (push pcrOf) groups).ofBank bank =
      groups.ofBank bank ++ items.filter fun item => (pcrOf item).bank = bank := by
  induction items generalizing groups with
  | nil => simp
  | cons item rest induction =>
      rw [List.foldl_cons, induction, ofBank_push, List.append_assoc, ← List.filter_append,
        List.singleton_append]

theorem filled_push (filled : ∀ group ∈ groups, group.2 ≠ []) (item : α) :
    ∀ group ∈ groups.push pcrOf item, group.2 ≠ [] := by
  intro group member
  rcases PcrBank.eq_or_mem_of_mem_setGroup member with rfl | old
  · simp
  · exact filled group old

theorem banks_foldl_push (items : List α) (banks : Ascending groups) :
    Ascending (items.foldl (push pcrOf) groups) := by
  induction items generalizing groups with
  | nil => exact banks
  | cons item rest induction => exact induction (PcrBank.ascending_setGroup banks _ _)

theorem filled_foldl_push (items : List α) (filled : ∀ group ∈ groups, group.2 ≠ []) :
    ∀ group ∈ items.foldl (push pcrOf) groups, group.2 ≠ [] := by
  induction items generalizing groups with
  | nil => exact filled
  | cons item rest induction => exact induction (filled_push filled item)

theorem ascending_filter {items : List α}
    (ascending : items.Pairwise fun left right => (pcrOf left).bank = (pcrOf right).bank →
      (pcrOf left).index.value < (pcrOf right).index.value) (bank : PcrBank) :
    (items.filter fun item => (pcrOf item).bank = bank).Pairwise fun left right =>
      (pcrOf left).index.value < (pcrOf right).index.value := by
  refine (ascending.filter _).imp_of_mem fun leftMember rightMember smaller => ?_
  have leftOwn := (List.mem_filter.mp leftMember).2
  have rightOwn := (List.mem_filter.mp rightMember).2
  exact smaller ((of_decide_eq_true leftOwn).trans (of_decide_eq_true rightOwn).symm)

/-- The items need not come bank by bank, as long as those of one bank come by their index. -/
theorem inOrder_foldl_push {items : List α}
    (ascending : items.Pairwise fun left right => (pcrOf left).bank = (pcrOf right).bank →
      (pcrOf left).index.value < (pcrOf right).index.value) :
    InOrder pcrOf (items.foldl (push pcrOf) []) := by
  have split : ∀ bank, (items.foldl (push pcrOf) []).ofBank bank =
      items.filter fun item => (pcrOf item).bank = bank := fun bank => by
    rw [ofBank_foldl_push, ofBank_nil, List.nil_append]
  refine .of_ofBank (banks_foldl_push items .nil) (filled_foldl_push items nofun) ?_ ?_
  · intro bank item member
    rw [split] at member
    simpa using (List.mem_filter.mp member).2
  · intro bank
    rw [split]
    exact ascending_filter ascending bank

/-! ## All items -/

theorem items_cons (first : PcrBank × List α) (rest : Grouping α) :
    items (first :: rest) = first.2 ++ items rest :=
  List.flatMap_cons

theorem ofBank_cons (first : PcrBank × List α) (rest : Grouping α) (bank : PcrBank) :
    ofBank (first :: rest) bank = if first.1 = bank then first.2 else ofBank rest bank := by
  rw [ofBank, PcrBank.group?_cons]
  split <;> rfl

theorem ofBank_of_not_mem (unlisted : bank ∉ groups.map Prod.fst) : groups.ofBank bank = [] := by
  induction groups with
  | nil => rfl
  | cons first rest induction =>
      have later := List.ne_and_not_mem_of_not_mem_cons unlisted
      rw [ofBank_cons, if_neg (Ne.symm later.1), induction later.2]

/-- The items of a bank are those of its group. -/
theorem filter_items (once : PcrBank.Once groups) (own : Own pcrOf groups) (bank : PcrBank) :
    (groups.items.filter fun item => (pcrOf item).bank = bank) = groups.ofBank bank := by
  induction groups with
  | nil => rfl
  | cons first rest induction =>
      have headed := List.nodup_cons.mp once
      have listed := List.forall_mem_cons.mp own
      rw [items_cons, ofBank_cons, List.filter_append, induction headed.2 listed.2]
      by_cases named : first.1 = bank
      · subst named
        rw [if_pos rfl, ofBank_of_not_mem headed.1, List.append_nil, List.filter_eq_self]
        intro item member
        simpa using listed.1 item member
      · rw [if_neg named, List.filter_eq_nil_iff.mpr, List.nil_append]
        intro item member
        simpa [listed.1 item member] using named

theorem size_eq_length_items (groups : Grouping α) : groups.size = groups.items.length := by
  rw [items, List.length_flatMap, size]

theorem isEmpty_items (filled : ∀ group ∈ groups, group.2 ≠ []) :
    groups.items.isEmpty = groups.isEmpty := by
  cases groups with
  | nil => rfl
  | cons first rest =>
      have nonempty := filled first List.mem_cons_self
      simp [items, nonempty]

theorem mem_items_iff (groups : Grouping α) (item : α) :
    item ∈ groups.items ↔ ∃ group ∈ groups, item ∈ group.2 := by
  rw [items, List.mem_flatMap]

/-- The items of an earlier bank come first. -/
theorem InOrder.before (order : InOrder pcrOf groups) :
    groups.items.Pairwise fun left right => (pcrOf left).Before (pcrOf right) := by
  rw [items, List.pairwise_flatMap]
  constructor
  · intro group member
    refine (order.ascending group member).imp_of_mem fun leftMember rightMember smaller => ?_
    exact .inr ⟨(order.own group member _ leftMember).trans
      (order.own group member _ rightMember).symm, smaller⟩
  · refine order.banks.imp_of_mem fun leftMember rightMember earlier => ?_
    intro left leftItem right rightItem
    left
    rw [order.own _ leftMember left leftItem, order.own _ rightMember right rightItem]
    exact earlier

end Grouping

/-! ## The groups of a table -/

namespace PcrTable

open Grouping (InOrder)

variable {α : Type} {pcrOf : α → PcrId}

def groups (table : PcrTable α pcrOf) : Grouping α :=
  table.banks.map fun bank => (bank, table.ofBank bank)

theorem mem_groups_iff (table : PcrTable α pcrOf) (group : PcrBank × List α) :
    group ∈ table.groups ↔ group.2 = table.ofBank group.1 ∧ group.2 ≠ [] := by
  rcases group with ⟨bank, items⟩
  simp only [groups, banks, List.mem_map, List.mem_filter, Prod.mk.injEq, Bool.not_eq_true',
    List.isEmpty_eq_false_iff]
  constructor
  · intro listed
    rcases listed with ⟨bank, ⟨_, filled⟩, rfl, rfl⟩
    exact ⟨rfl, filled⟩
  · intro listed
    rcases listed with ⟨rfl, filled⟩
    exact ⟨bank, ⟨HashAlgorithm.mem_all bank, filled⟩, rfl, rfl⟩

theorem bank_of_mem_ofBank {table : PcrTable α pcrOf} {bank : PcrBank} {item : α}
    (member : item ∈ table.ofBank bank) : (pcrOf item).bank = bank := by
  simpa using (List.mem_filter.mp member).2

theorem ascending_ofBank (table : PcrTable α pcrOf) (bank : PcrBank) :
    (table.ofBank bank).Pairwise fun left right =>
      (pcrOf left).index.value < (pcrOf right).index.value := by
  refine (table.ordered.filter _).imp_of_mem fun leftMember rightMember before => ?_
  rcases (PcrId.position_lt_iff _ _).mp before with earlier | ⟨_, smaller⟩
  · rw [bank_of_mem_ofBank leftMember, bank_of_mem_ofBank rightMember] at earlier
    exact absurd earlier (Nat.lt_irrefl _)
  · exact smaller

theorem inOrder_groups (table : PcrTable α pcrOf) : InOrder pcrOf table.groups := by
  have ranks : HashAlgorithm.all.Pairwise fun left right => left.rank < right.rank := by decide
  refine ⟨List.pairwise_map.mpr (ranks.filter _), ?_, ?_, ?_⟩
  · intro group member
    exact ((table.mem_groups_iff group).mp member).2
  · intro group member item listed
    rw [((table.mem_groups_iff group).mp member).1] at listed
    exact bank_of_mem_ofBank listed
  · intro group member
    rw [((table.mem_groups_iff group).mp member).1]
    exact table.ascending_ofBank group.1

theorem ofBank_groups (table : PcrTable α pcrOf) (bank : PcrBank) :
    table.groups.ofBank bank = table.ofBank bank := by
  rw [Grouping.ofBank]
  cases given : PcrBank.group? table.groups bank with
  | none =>
      by_contra filled
      have listed := (table.mem_groups_iff (bank, table.ofBank bank)).mpr ⟨rfl, Ne.symm filled⟩
      rw [(PcrBank.group?_eq_some_iff table.inOrder_groups.banks.once).mpr listed] at given
      cases given
  | some items => exact ((table.mem_groups_iff _).mp (PcrBank.mem_of_group? given)).1

/-- Items that come in another order than that of the table are grouped all the same. -/
theorem foldl_push_eq_groups (table : PcrTable α pcrOf) {items : List α}
    (ascending : items.Pairwise fun left right => (pcrOf left).bank = (pcrOf right).bank →
      (pcrOf left).index.value < (pcrOf right).index.value)
    (same : ∀ item, item ∈ items ↔ item ∈ table.items) :
    items.foldl (Grouping.push pcrOf) [] = table.groups := by
  refine (Grouping.inOrder_foldl_push ascending).ext table.inOrder_groups fun bank => ?_
  rw [Grouping.ofBank_foldl_push, Grouping.ofBank_nil, List.nil_append, ofBank_groups]
  refine eq_of_ascending (fun item => (pcrOf item).index.value)
    (Grouping.ascending_filter ascending bank) (table.ascending_ofBank bank) fun item => ?_
  rw [ofBank, List.mem_filter, List.mem_filter, same]

/-- Grouping does not move the items. -/
theorem items_groups (table : PcrTable α pcrOf) : table.groups.items = table.items := by
  have positions := table.inOrder_groups.before.imp fun before =>
    (PcrId.position_lt_iff _ _).mpr before
  refine eq_of_ascending (fun item => (pcrOf item).position) positions table.ordered fun item => ?_
  rw [Grouping.mem_items_iff]
  constructor
  · intro listed
    rcases listed with ⟨group, member, listed⟩
    rw [((table.mem_groups_iff group).mp member).1] at listed
    exact (List.mem_filter.mp listed).1
  · intro member
    have own : item ∈ table.ofBank (pcrOf item).bank := by simp [ofBank, member]
    exact ⟨(_, _), (table.mem_groups_iff _).mpr ⟨rfl, List.ne_nil_of_mem own⟩, own⟩

/-- The items in front of another one are those of earlier registers. -/
theorem mem_front_iff {table : PcrTable α pcrOf} {front rest : List α} {item : α}
    (split : table.items = front ++ item :: rest) (other : α) :
    other ∈ front ↔ other ∈ table.items ∧ (pcrOf other).Before (pcrOf item) := by
  have ordered := table.ordered
  rw [split] at ordered ⊢
  have parts := List.pairwise_append.mp ordered
  have headed := List.pairwise_cons.mp parts.2.1
  rw [← PcrId.position_lt_iff]
  constructor
  · intro member
    exact ⟨List.mem_append_left _ member, parts.2.2 other member item List.mem_cons_self⟩
  · rintro ⟨member, before⟩
    rcases List.mem_append.mp member with inFront | later
    · exact inFront
    · rcases List.mem_cons.mp later with rfl | behind
      · exact absurd before (Nat.lt_irrefl _)
      · exact absurd before (Nat.lt_asymm (headed.1 other behind))

theorem lookup?_groups (table : PcrTable α pcrOf) (pcr : PcrId) :
    table.groups.lookup? pcrOf pcr = table.find? pcr := by
  rw [Grouping.lookup?, ofBank_groups, ofBank, List.find?_filter, find?]
  congr 1
  funext item
  by_cases named : pcrOf item = pcr
  · simp [named]
  · simp [named]

theorem size_groups (table : PcrTable α pcrOf) : table.groups.size = table.size := by
  rw [Grouping.size_eq_length_items, items_groups, size]

theorem isEmpty_groups (table : PcrTable α pcrOf) : table.groups.isEmpty = table.isEmpty := by
  rw [← Grouping.isEmpty_items table.inOrder_groups.filled, items_groups, isEmpty]

theorem ofBank_filter (table : PcrTable α pcrOf) (keep : α → Bool) (bank : PcrBank) :
    (table.filter keep).ofBank bank = (table.ofBank bank).filter keep := by
  rw [ofBank, filter, ofBank, List.filter_filter, List.filter_filter]
  exact List.filter_congr fun _ _ => Bool.and_comm _ _

theorem groups_filter (table : PcrTable α pcrOf) (keep : α → Bool) :
    (table.filter keep).groups = table.groups.retain keep := by
  simp only [groups, banks, Grouping.retain, ofBank_filter, List.map_map, List.filter_map,
    List.filter_filter]
  congr 1
  refine List.filter_congr fun bank _ => ?_
  cases listed : table.ofBank bank <;> simp [listed]

end PcrTable

end HostAttestation
