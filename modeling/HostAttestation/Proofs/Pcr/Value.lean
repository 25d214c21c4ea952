import HostAttestation.Pcr.Value

/-! # Checked indexes, banks and values

Each is accepted for what it is: a number in the range of the indexes, a name of a bank, a digest
of the width of its bank. -/

namespace HostAttestation

theorem PcrIndex.ofNat?_eq_some_iff (number : Nat) (index : PcrIndex) :
    ofNat? number = some index ↔ number = index.value := by
  unfold ofNat?
  constructor
  · intro found
    split at found
    · cases found
      rfl
    · cases found
  · rintro rfl
    rw [dif_pos index.below]

theorem PcrIndex.ofInt_eq_ok_iff (number : Int) (index : PcrIndex) :
    ofInt number = .ok index ↔ number = index.value := by
  have found : ofInt? number = some index ↔ number = index.value := by
    cases number with
    | ofNat natural =>
        rw [ofInt?, ofNat?_eq_some_iff]
        exact Int.ofNat_inj.symm
    | negSucc natural =>
        have different : Int.negSucc natural ≠ index.value := by omega
        simp [ofInt?, different]
  rw [ofInt, ← found]
  cases ofInt? number with
  | none => simp
  | some other => simp

theorem PcrBank.parse_eq_ok_iff (text : String) (bank : PcrBank) :
    parse text = .ok bank ↔ HashAlgorithm.parse? text = some bank := by
  unfold parse
  cases HashAlgorithm.parse? text with
  | none => simp
  | some other => simp

theorem PcrValue.ofDigest_eq_ok_iff (pcr : PcrId) (digest : Bytes) (value : PcrValue) :
    ofDigest pcr digest = .ok value ↔ value.pcr = pcr ∧ value.digest = digest := by
  rw [ofDigest]
  constructor
  · intro succeeds
    split at succeeds
    · cases succeeds
      exact ⟨rfl, rfl⟩
    · cases succeeds
  · rintro ⟨rfl, rfl⟩
    rw [dif_pos value.width]

end HostAttestation
