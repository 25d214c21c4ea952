import HostAttestation.Pcr.Value

/-! # Tables by register

Items that belong to registers, at most one to a register, in the order of the registers: bank
by bank and by ascending index. Main statement: insertion keeps the order. -/

namespace HostAttestation

structure PcrTable (α : Type) (pcrOf : α → PcrId) where
  items : List α
  ordered : items.Pairwise fun left right => (pcrOf left).position < (pcrOf right).position

namespace PcrTable

variable {α : Type} {pcrOf : α → PcrId}

instance [DecidableEq α] : DecidableEq (PcrTable α pcrOf) :=
  fun left right =>
    if same : left.items = right.items then
      isTrue (by cases left; cases right; simp_all)
    else isFalse fun equal => same (equal ▸ rfl)

def empty : PcrTable α pcrOf :=
  ⟨[], .nil⟩

def isEmpty (table : PcrTable α pcrOf) : Bool :=
  table.items.isEmpty

def size (table : PcrTable α pcrOf) : Nat :=
  table.items.length

def find? (table : PcrTable α pcrOf) (pcr : PcrId) : Option α :=
  table.items.find? fun item => pcrOf item = pcr

/-- The items of one bank, by ascending index. -/
def ofBank (table : PcrTable α pcrOf) (bank : PcrBank) : List α :=
  table.items.filter fun item => (pcrOf item).bank = bank

/-- The banks that have items, in their order. -/
def banks (table : PcrTable α pcrOf) : List PcrBank :=
  HashAlgorithm.all.filter fun bank => !(table.ofBank bank).isEmpty

def filter (keep : α → Bool) (table : PcrTable α pcrOf) : PcrTable α pcrOf :=
  ⟨table.items.filter keep, table.ordered.filter keep⟩

/-- Puts an item at its place, or merges it into the one that is already there. -/
def insertItem (pcrOf : α → PcrId) (merge : α → α → α) (item : α) : List α → List α
  | [] => [item]
  | first :: rest =>
      if (pcrOf item).position < (pcrOf first).position then item :: first :: rest
      else if pcrOf item = pcrOf first then merge first item :: rest
      else first :: insertItem pcrOf merge item rest

theorem pcrOf_mem_insertItem {merge : α → α → α}
    (keeps : ∀ old new, pcrOf (merge old new) = pcrOf old) (item : α) (items : List α)
    (other : α) (member : other ∈ insertItem pcrOf merge item items) :
    pcrOf other = pcrOf item ∨ ∃ old ∈ items, pcrOf other = pcrOf old := by
  induction items with
  | nil => simp_all [insertItem]
  | cons first rest induction =>
      rw [insertItem] at member
      split at member
      · rcases List.mem_cons.mp member with equal | member
        · exact .inl (equal ▸ rfl)
        · exact .inr ⟨other, member, rfl⟩
      · split at member
        · rcases List.mem_cons.mp member with equal | member
          · exact .inr ⟨first, List.mem_cons_self, by rw [equal, keeps]⟩
          · exact .inr ⟨other, List.mem_cons_of_mem _ member, rfl⟩
        · rcases List.mem_cons.mp member with equal | member
          · exact .inr ⟨first, List.mem_cons_self, by rw [equal]⟩
          · rcases induction member with equal | ⟨old, oldMember, equal⟩
            · exact .inl equal
            · exact .inr ⟨old, List.mem_cons_of_mem _ oldMember, equal⟩

theorem pairwise_insertItem {merge : α → α → α}
    (keeps : ∀ old new, pcrOf (merge old new) = pcrOf old) (item : α) (items : List α)
    (ordered : items.Pairwise fun left right => (pcrOf left).position < (pcrOf right).position) :
    (insertItem pcrOf merge item items).Pairwise
      fun left right => (pcrOf left).position < (pcrOf right).position := by
  induction items with
  | nil => simp [insertItem]
  | cons first rest induction =>
      have headed := List.pairwise_cons.mp ordered
      rw [insertItem]
      split
      next before =>
        refine List.pairwise_cons.mpr ⟨fun other member => ?_, ordered⟩
        rcases List.mem_cons.mp member with equal | member
        · rw [equal]; exact before
        · exact Nat.lt_trans before (headed.1 other member)
      next notBefore =>
        split
        next =>
          refine List.pairwise_cons.mpr ⟨fun other member => ?_, headed.2⟩
          rw [keeps]
          exact headed.1 other member
        next different =>
          refine List.pairwise_cons.mpr ⟨fun other member => ?_, induction headed.2⟩
          rcases pcrOf_mem_insertItem keeps item rest other member with
            equal | ⟨old, oldMember, equal⟩
          · rw [equal]
            have distinct : (pcrOf item).position ≠ (pcrOf first).position :=
              fun same => different (PcrId.position_injective same)
            omega
          · rw [equal]
            exact headed.1 old oldMember

def insert (merge : α → α → α) (keeps : ∀ old new, pcrOf (merge old new) = pcrOf old)
    (table : PcrTable α pcrOf) (item : α) : PcrTable α pcrOf :=
  ⟨insertItem pcrOf merge item table.items, pairwise_insertItem keeps item _ table.ordered⟩

/-! ## Documents

A table is an object with one array for every bank that has items. -/

def toJson (write : α → Json) (table : PcrTable α pcrOf) : Json :=
  .object (table.banks.map fun bank => (bank.bankName, .array ((table.ofBank bank).map write)))

end PcrTable

namespace PcrBank

/-- Sets the value of a bank; a value that it already had is replaced. -/
def setGroup (bank : PcrBank) (value : α) : List (PcrBank × α) → List (PcrBank × α)
  | [] => [(bank, value)]
  | (other, kept) :: rest =>
      if bank.rank < other.rank then (bank, value) :: (other, kept) :: rest
      else if bank = other then (bank, value) :: rest
      else (other, kept) :: setGroup bank value rest

def readMembers (read : Decoding α) :
    List (Option String × Json.Source) → List (PcrBank × α) →
      Except (Json.Fault Violation) (List (PcrBank × α))
  | [], groups => .ok groups
  | (none, _) :: _, _ => .error .malformed
  | (some key, source) :: rest, groups =>
      match parse key with
      | .error reason => .error (.refused reason)
      | .ok bank => do
          let value ← read source
          readMembers read rest (setGroup bank value groups)

/-- An object keyed by bank, in the order of the banks. Of two spellings of one bank the later
one counts. -/
def readGroups (read : Decoding α) : Decoding (List (PcrBank × α))
  | .object members closed => do
      let groups ← readMembers read members []
      if closed then pure groups else .error .malformed
  | _ => .error .malformed

/-- The items of a grouped document, each of which must be listed under its own bank. -/
def itemsOfGroup (pcrOf : α → PcrId) (bank : PcrBank) : List α → Except Violation (List α)
  | [] => .ok []
  | item :: rest =>
      if (pcrOf item).bank = bank then (itemsOfGroup pcrOf bank rest).map (item :: ·)
      else .error (.bankMismatch (pcrOf item) bank)

end PcrBank

end HostAttestation
