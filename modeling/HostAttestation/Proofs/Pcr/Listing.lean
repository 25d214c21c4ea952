import HostAttestation.Proofs.Outcome
import HostAttestation.Proofs.Pcr.Groups
import Mathlib.Data.List.Duplicate

/-! # What a document lists for the banks

An object that is keyed by bank can name one bank under several keys. Of what it lists, only the
last value of each bank is read; if no bank stands under two keys, that is all of it. -/

namespace HostAttestation

namespace PcrBank

variable {α : Type}

/-- The values of all members, each with the bank that its key names. -/
def listMembers (read : Decoding α) : List (Option String × Json.Source) →
    Except (Json.Fault Violation) (List (PcrBank × α))
  | [] => .ok []
  | (none, _) :: _ => .error .malformed
  | (some key, source) :: rest =>
      match parse key with
      | .error reason => .error (.refused reason)
      | .ok bank => do
          let value ← read source
          let listed ← listMembers read rest
          pure ((bank, value) :: listed)

def listing (read : Decoding α) : Decoding (List (PcrBank × α))
  | .object members closed => do
      let listed ← listMembers read members
      if closed then pure listed else .error .malformed
  | _ => .error .malformed

/-- What is left of values that are set one after the other. -/
def latest (listed : List (PcrBank × α)) : List (PcrBank × α) :=
  listed.foldl (fun groups group => setGroup group.1 group.2 groups) []

theorem readMembers_eq (read : Decoding α) (members : List (Option String × Json.Source))
    (groups : List (PcrBank × α)) :
    readMembers read members groups = (listMembers read members).map fun listed =>
      listed.foldl (fun groups group => setGroup group.1 group.2 groups) groups := by
  induction members generalizing groups with
  | nil => rfl
  | cons member rest induction =>
      rcases member with ⟨key?, source⟩
      cases key? with
      | none => rfl
      | some key =>
          rw [readMembers, listMembers]
          cases parse key with
          | error reason => rfl
          | ok bank =>
              cases read source with
              | error fault => rfl
              | ok value =>
                  change readMembers read rest (setGroup bank value groups) = _
                  rw [induction]
                  cases listMembers read rest <;> rfl

theorem readGroups_eq (read : Decoding α) (source : Json.Source) :
    readGroups read source = (listing read source).map latest := by
  cases source with
  | object members closed =>
      rw [readGroups, listing, readMembers_eq]
      cases listMembers read members with
      | error fault => rfl
      | ok listed => cases closed <;> rfl
  | _ => rfl

theorem ascending_latest (listed : List (PcrBank × α)) : Ascending (latest listed) := by
  rw [latest, List.foldl_eq_foldr_reverse]
  induction listed.reverse with
  | nil => exact .nil
  | cons group rest induction => exact ascending_setGroup induction group.1 group.2

/-- The last value of a bank is the first one from the end. -/
theorem group?_latest (listed : List (PcrBank × α)) (bank : PcrBank) :
    group? (latest listed) bank = group? listed.reverse bank := by
  rw [latest, List.foldl_eq_foldr_reverse]
  induction listed.reverse with
  | nil => rfl
  | cons group rest induction => rw [List.foldr_cons, group?_setGroup, group?_cons, induction]

theorem mem_latest_iff (listed : List (PcrBank × α)) (group : PcrBank × α) :
    group ∈ latest listed ↔ group? listed.reverse group.1 = some group.2 := by
  rw [← group?_latest]
  exact (group?_eq_some_iff (ascending_latest listed).once).symm

theorem mem_of_mem_latest {listed : List (PcrBank × α)} {group : PcrBank × α}
    (member : group ∈ latest listed) : group ∈ listed :=
  List.mem_reverse.mp (mem_of_group? ((mem_latest_iff listed group).mp member))

theorem latest_perm {listed : List (PcrBank × α)} (once : Once listed) :
    (latest listed).Perm listed := by
  have reversed : Once listed.reverse := by
    rw [Once, List.map_reverse]
    exact List.nodup_reverse.mpr once
  have distinct : (latest listed).Nodup := (ascending_latest listed).once.of_map
  refine (List.perm_ext_iff_of_nodup distinct once.of_map).mpr fun group => ?_
  rw [mem_latest_iff, group?_eq_some_iff reversed, List.mem_reverse]

end PcrBank

/-! ## What is kept of it -/

/-- A table has for every bank exactly what the last array of the bank lists, and if no bank
stands under two keys, it has exactly what all arrays list. -/
structure Keeps {α : Type} {pcrOf : α → PcrId} (listed : Grouping α)
    (table : PcrTable α pcrOf) : Prop where
  last : ∀ bank, (table.ofBank bank).Perm (Grouping.ofBank listed.reverse bank)
  all : PcrBank.Once listed → table.items.Perm (Grouping.items listed)

theorem own_latest {α : Type} {pcrOf : α → PcrId} {listed : Grouping α}
    (own : Grouping.Own pcrOf listed) : Grouping.Own pcrOf (PcrBank.latest listed) :=
  fun group member => own group (PcrBank.mem_of_mem_latest member)

theorem items_latest_perm {α : Type} {listed : Grouping α} (once : PcrBank.Once listed) :
    (Grouping.items (PcrBank.latest listed)).Perm listed.items :=
  (PcrBank.latest_perm once).flatMap_right _

theorem keeps_of_perm {α : Type} {pcrOf : α → PcrId} {listed : Grouping α}
    {table : PcrTable α pcrOf} (own : Grouping.Own pcrOf (PcrBank.latest listed))
    (same : table.items.Perm (Grouping.items (PcrBank.latest listed))) : Keeps listed table where
  last bank := by
    have once := (PcrBank.ascending_latest listed).once
    have banked := same.filter fun item => (pcrOf item).bank = bank
    rw [Grouping.filter_items once own, Grouping.ofBank, PcrBank.group?_latest] at banked
    exact banked
  all once := same.trans (items_latest_perm once)

/-! ## Arrays in another order -/

/-- The same banks stand in the same places, each with the same items in some order. -/
def Reordered {α : Type} (left right : Grouping α) : Prop :=
  List.Forall₂ (fun first second => first.1 = second.1 ∧ first.2.Perm second.2) left right

namespace Reordered

variable {α : Type} {pcrOf : α → PcrId} {left right : Grouping α}

theorem setGroup (reordered : Reordered left right) (bank : PcrBank) {items others : List α}
    (same : items.Perm others) :
    Reordered (PcrBank.setGroup bank items left) (PcrBank.setGroup bank others right) := by
  induction reordered with
  | nil => exact .cons ⟨rfl, same⟩ .nil
  | @cons first second left right related later induction =>
      rcases first with ⟨other, kept⟩
      rcases second with ⟨_, keptOther⟩
      rcases related with ⟨rfl, keptSame⟩
      rw [PcrBank.setGroup, PcrBank.setGroup]
      split
      · exact .cons ⟨rfl, same⟩ (.cons ⟨rfl, keptSame⟩ later)
      · split
        · exact .cons ⟨rfl, same⟩ later
        · exact .cons ⟨rfl, keptSame⟩ induction

theorem latest (reordered : Reordered left right) :
    Reordered (PcrBank.latest left) (PcrBank.latest right) := by
  suffices step : ∀ groups others : Grouping α, Reordered groups others →
      Reordered (left.foldl (fun groups group => PcrBank.setGroup group.1 group.2 groups) groups)
        (right.foldl (fun groups group => PcrBank.setGroup group.1 group.2 groups) others) from
    step [] [] .nil
  induction reordered with
  | nil => exact fun _ _ related => related
  | @cons first second left right related later induction =>
      rcases first with ⟨bank, items⟩
      rcases second with ⟨_, others⟩
      rcases related with ⟨rfl, same⟩
      intro groups otherGroups groupsRelated
      exact induction _ _ (groupsRelated.setGroup bank same)

theorem items_perm (reordered : Reordered left right) :
    (Grouping.items left).Perm (Grouping.items right) := by
  induction reordered with
  | nil => exact .refl _
  | cons related later induction =>
      rw [Grouping.items_cons, Grouping.items_cons]
      exact related.2.append induction

theorem own (reordered : Reordered left right) (own : Grouping.Own pcrOf left) :
    Grouping.Own pcrOf right := by
  induction reordered with
  | nil => exact nofun
  | cons related later induction =>
      have headed := List.forall_mem_cons.mp own
      refine List.forall_mem_cons.mpr ⟨fun item member => ?_, induction headed.2⟩
      rw [← related.1]
      exact headed.1 item (related.2.mem_iff.mpr member)

end Reordered

namespace PcrId

/-! ## Registers that are listed again -/

/-- The first register that was already listed. -/
def again? : (listed : List PcrId) → List PcrId → Option PcrId
  | _, [] => none
  | listed, pcr :: rest => if pcr ∈ listed then some pcr else again? (listed ++ [pcr]) rest

theorem again?_append (listed left right : List PcrId) :
    again? listed (left ++ right) = (again? listed left).or (again? (listed ++ left) right) := by
  induction left generalizing listed with
  | nil => simp [again?]
  | cons pcr rest induction =>
      rw [List.cons_append, again?, again?]
      split
      · rfl
      · rw [induction, List.append_assoc, List.singleton_append]

theorem again?_eq_none_iff {listed : List PcrId} (distinct : listed.Nodup) (pcrs : List PcrId) :
    again? listed pcrs = none ↔ (listed ++ pcrs).Nodup := by
  induction pcrs generalizing listed with
  | nil => simpa [again?] using distinct
  | cons pcr rest induction =>
      rw [again?]
      split
      next member =>
        have repeated : ¬(listed ++ pcr :: rest).Nodup := fun apart =>
          (List.disjoint_of_nodup_append apart) member List.mem_cons_self
        simp [repeated]
      next new =>
        have extended : (listed ++ [pcr]).Nodup :=
          distinct.append (List.nodup_singleton pcr) (List.disjoint_singleton.mpr new)
        rw [induction extended, List.append_assoc, List.singleton_append]

theorem duplicate_of_again? {listed pcrs : List PcrId} {pcr : PcrId}
    (repeated : again? listed pcrs = some pcr) : (listed ++ pcrs).Duplicate pcr := by
  induction pcrs generalizing listed with
  | nil => cases repeated
  | cons first rest induction =>
      rw [again?] at repeated
      split at repeated
      next member =>
        cases repeated
        rw [List.duplicate_iff_sublist]
        exact (List.singleton_sublist.mpr member).append
          (List.singleton_sublist.mpr List.mem_cons_self)
      next =>
        have later := induction repeated
        rw [List.append_assoc, List.singleton_append] at later
        exact later

theorem duplicate_of_perm {pcrs others : List PcrId} (same : pcrs.Perm others) {pcr : PcrId}
    (repeated : pcrs.Duplicate pcr) : others.Duplicate pcr := by
  rw [List.duplicate_iff_two_le_count] at repeated ⊢
  rwa [← same.count_eq]

theorem exists_again?_of_perm {pcrs others : List PcrId} (same : pcrs.Perm others)
    (repeated : ¬others.Nodup) : ∃ pcr, again? [] pcrs = some pcr ∧ others.Duplicate pcr := by
  cases found : again? [] pcrs with
  | none =>
      have distinct := (again?_eq_none_iff .nil pcrs).mp found
      exact absurd (same.nodup_iff.mp distinct) repeated
  | some pcr => exact ⟨pcr, rfl, duplicate_of_perm same (duplicate_of_again? found)⟩

end PcrId

end HostAttestation
