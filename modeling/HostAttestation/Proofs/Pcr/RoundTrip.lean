import HostAttestation.Proofs.Json.RoundTrip
import HostAttestation.Proofs.Pcr.Listing
import HostAttestation.Proofs.Pcr.Value
import HostAttestation.Proofs.Text.Blank

/-! # Registers in documents

What is written for an index, a bank, a register or its value is read as what it was. A table is
written group by group, and its groups are what is read. -/

namespace HostAttestation

open Json (Returns)
open Json.Fields (Restores)

/-! ## Registers -/

theorem PcrIndex.returns_read (index : PcrIndex) :
    Returns (PcrIndex.read index.toJson.toSource) True index := by
  have checked := Json.Reader.returns_checked (Json.Reader.returns_signed 63 index.value)
    ((PcrIndex.ofInt_eq_ok_iff index.value index).mpr rfl)
  have below := index.below
  have wide : pcrCount ≤ Json.capacity 63 := by decide
  have signed : Json.IsSigned 63 index.value := ⟨by omega, by omega⟩
  exact checked.congr (iff_true_intro signed)

theorem PcrBank.parse_bankName (bank : PcrBank) : parse bank.bankName = .ok bank := by
  cases bank <;> decide

theorem PcrBank.returns_read (bank : PcrBank) :
    Returns (PcrBank.read (PcrBank.toJson bank).toSource) True bank :=
  Json.Reader.returns_checked (Json.Reader.returns_text bank.bankName) bank.parse_bankName

theorem PcrBank.returns_list (banks : List PcrBank) :
    Returns (Json.Reader.list PcrBank.read (Json.array (banks.map PcrBank.toJson)).toSource) True
      banks :=
  (Json.Reader.returns_list banks fun bank _ => bank.returns_read).congr (by simp)

theorem PcrId.returns_read (pcr : PcrId) : Returns (PcrId.read pcr.toJson.toSource) True pcr := by
  have restores := (Restores.required "index" pcr.index.returns_read).map PcrId.mk
    |>.seq (.required "bank" pcr.bank.returns_read)
  exact (restores.read (by decide)).congr (by simp)

/-! ## Values -/

theorem Hex.not_isBlank_of_mem_encodeChars {bytes : Bytes} {c : Char}
    (member : c ∈ encodeChars bytes) : ¬Text.isBlank c := by
  have digits : ∀ value ∈ List.range 16, 0x21 ≤ (digit value).toNat ∧
      (digit value).toNat ≤ 0x7E := by decide
  rcases List.mem_flatMap.mp member with ⟨byte, _, written⟩
  have size := byte.toNat_lt
  have printed : 0x21 ≤ c.toNat ∧ c.toNat ≤ 0x7E := by
    rcases List.mem_pair.mp written with rfl | rfl
    · exact digits _ (List.mem_range.mpr (by omega))
    · exact digits _ (List.mem_range.mpr (by omega))
  exact Text.not_isBlank_of_printed printed.1 printed.2

theorem PcrValue.ofHex_hex (value : PcrValue) : ofHex value.pcr value.hex = .ok value := by
  have unblank : Text.trim value.hex = value.hex := by
    rw [Text.trim, hex, Hex.encode, String.toList_ofList,
      Text.trimChars_eq_self fun c => Hex.not_isBlank_of_mem_encodeChars]
  rw [ofHex, unblank, hex, Hex.decode?_encode]
  exact ofDigest_digest value

theorem PcrValue.returns_read (value : PcrValue) :
    Returns (PcrValue.read value.toJson.toSource) True value := by
  have restores := (Restores.required "index" value.pcr.index.returns_read).map Unchecked.mk
    |>.seq (.required "bank" value.pcr.bank.returns_read)
    |>.seq (.required "value" (Json.Reader.returns_text value.hex))
  refine Returns.congr (Json.Reader.returns_checked (restores.read (by decide)) ?_) (by simp)
  exact value.ofHex_hex

/-! ## Tables -/

namespace PcrBank

theorem latest_eq_self {α : Type} {groups : List (PcrBank × α)} (ascending : Ascending groups) :
    latest groups = groups :=
  eq_of_ascending (fun group : PcrBank × α => group.1.rank) (ascending_latest groups) ascending
    fun _ => (latest_perm ascending.once).mem_iff

theorem listMembers_written {α : Type} {read : Decoding α} {write : α → Json}
    (returns : ∀ value, Returns (read (write value).toSource) True value)
    (groups : List (PcrBank × α)) :
    listMembers read (Json.sourceMembers
      (groups.map fun group => (group.1.bankName, write group.2))) = .ok groups := by
  induction groups with
  | nil => rfl
  | cons group rest induction =>
      rw [List.map_cons, Json.sourceMembers, Json.sourceMember, listMembers, parse_bankName]
      change (do let value ← read (write group.2).toSource; _) = _
      rw [(returns group.2).eq_ok]
      change (do let listed ← listMembers read _; _) = _
      rw [induction]
      rfl

theorem readGroups_written {α : Type} {read : Decoding α} {write : α → Json}
    (returns : ∀ value, Returns (read (write value).toSource) True value)
    {groups : List (PcrBank × α)} (ascending : Ascending groups) :
    readGroups read (Json.object
      (groups.map fun group => (group.1.bankName, write group.2))).toSource = .ok groups := by
  rw [readGroups_eq, Json.toSource, listing, listMembers_written returns]
  exact congrArg Except.ok (latest_eq_self ascending)

end PcrBank

theorem PcrTable.returns_readGroups {α : Type} {pcrOf : α → PcrId} {read : Decoding α}
    {write : α → Json} (returns : ∀ item, Returns (read (write item).toSource) True item)
    (table : PcrTable α pcrOf) :
    Returns (PcrBank.readGroups (Json.Reader.list read) (table.toJson write).toSource) True
      table.groups := by
  have lists : ∀ items : List α, Returns
      (Json.Reader.list read (Json.array (items.map write)).toSource) True items := fun items =>
    (Json.Reader.returns_list items fun item _ => returns item).congr (by simp)
  have read := PcrBank.readGroups_written lists table.inOrder_groups.banks
  rw [groups, List.map_map] at read
  exact .of_eq_ok read

end HostAttestation
