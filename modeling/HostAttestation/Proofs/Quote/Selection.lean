import HostAttestation.Proofs.Pcr.Value
import HostAttestation.Proofs.Quote.Bitmap
import HostAttestation.Proofs.Quote.Form

/-! # The form of selections

A selection is read from a bank and a bitmap of any length; one whose registers are in ascending
order is read back from what is written for it. -/

namespace HostAttestation

open BigEndian (capacity encode)

namespace PcrSelection

theorem bankOfId?_eq_some_iff (algorithm : Nat) (bank : PcrBank) :
    bankOfId? algorithm = some bank ↔ algorithmId bank = algorithm := by
  constructor
  · intro found
    simpa using List.find?_some found
  · rintro rfl
    cases bank <;> rfl

theorem algorithmId_lt_capacity (bank : PcrBank) : algorithmId bank < capacity 2 := by
  cases bank <;> decide

theorem indexes_eq_ok_iff (bank : PcrBank) (positions : List Nat) (pcrs : List PcrIndex) :
    indexes bank positions = .ok pcrs ↔ positions = pcrs.map PcrIndex.value := by
  induction positions generalizing pcrs with
  | nil => cases pcrs <;> simp [indexes]
  | cons position rest induction =>
      rw [indexes]
      constructor
      · intro succeeds
        split at succeeds
        next index found =>
          rcases Outcome.map_eq_ok_iff.mp succeeds with ⟨others, restSucceeds, rfl⟩
          rw [List.map_cons, ← (PcrIndex.ofNat?_eq_some_iff position index).mp found,
            (induction others).mp restSucceeds]
        next => cases succeeds
      · intro same
        cases pcrs with
        | nil => cases same
        | cons index others =>
            rw [List.map_cons] at same
            cases same
            rw [(PcrIndex.ofNat?_eq_some_iff _ index).mpr rfl, (induction others).mpr rfl]
            rfl

end PcrSelection

/-- A bank, and the registers selected in it as the set bits of a bitmap of any length. -/
def Form.selection : Form PcrSelection := fun bytes selection => ∃ bitmap : Bytes,
  bitmap.length < capacity 1 ∧
    PcrSelection.setBits 0 bitmap = selection.pcrs.map PcrIndex.value ∧
    bytes = encode 2 (PcrSelection.algorithmId selection.bank) ++
      (encode 1 bitmap.length ++ bitmap)

theorem Reads.selection : Reads PcrSelection.read Form.selection := by
  refine (@Reads.bind _ _ _ _ _
    (fun algorithm bytes selection =>
      PcrSelection.algorithmId selection.bank = algorithm ∧ ∃ bitmap : Bytes,
        bitmap.length < capacity 1 ∧
          PcrSelection.setBits 0 bitmap = selection.pcrs.map PcrIndex.value ∧
          bytes = encode 1 bitmap.length ++ bitmap)
    (Reads.number 2 "selection hash") ?_).congr ?_
  · intro algorithm
    cases found : PcrSelection.bankOfId? algorithm with
    | none =>
        refine (Reads.throw _).congr fun bytes selection => ?_
        simp only [false_iff, not_and]
        intro known
        rw [(PcrSelection.bankOfId?_eq_some_iff algorithm selection.bank).mpr known] at found
        cases found
    | some bank =>
        have known := (PcrSelection.bankOfId?_eq_some_iff algorithm bank).mp found
        refine ((Reads.number 1 "sizeofSelect").bind fun size =>
          (Reads.take size "pcrSelect").bind fun bitmap =>
            (Reads.lift (PcrSelection.indexes bank (PcrSelection.setBits 0 bitmap))).bind
              fun pcrs => Reads.pure (PcrSelection.mk bank pcrs)).congr fun bytes selection => ?_
        constructor
        · rintro ⟨_, _, _, ⟨rfl, fits⟩, ⟨_, bitmap, _, ⟨rfl, rfl⟩,
            ⟨_, pcrs, _, ⟨rfl, read⟩, ⟨rfl, rfl⟩, rfl⟩, rfl⟩, rfl⟩
          exact ⟨known, bitmap, fits, (PcrSelection.indexes_eq_ok_iff _ _ _).mp read, by simp⟩
        · rintro ⟨same, bitmap, fits, positions, rfl⟩
          cases selection with
          | mk selectionBank pcrs =>
              have banks : selectionBank = bank := by
                have other := (PcrSelection.bankOfId?_eq_some_iff algorithm selectionBank).mpr same
                exact Option.some.inj (other.symm.trans found)
              subst banks
              exact ⟨_, _, _, ⟨rfl, fits⟩, ⟨bitmap, _, _, ⟨rfl, rfl⟩,
                ⟨[], pcrs, [], ⟨rfl, (PcrSelection.indexes_eq_ok_iff _ _ _).mpr positions⟩,
                  ⟨rfl, rfl⟩, rfl⟩, (List.append_nil bitmap).symm⟩, rfl⟩
  · intro bytes selection
    constructor
    · rintro ⟨_, _, _, ⟨rfl, _⟩, ⟨rfl, bitmap, fits, positions, rfl⟩, rfl⟩
      exact ⟨bitmap, fits, positions, rfl⟩
    · rintro ⟨bitmap, fits, positions, rfl⟩
      exact ⟨_, _, _, ⟨rfl, PcrSelection.algorithmId_lt_capacity _⟩,
        ⟨rfl, bitmap, fits, positions, rfl⟩, rfl⟩

theorem Form.selection_encode {selection : PcrSelection}
    (ascending : PcrSelection.Ascending selection.pcrs) :
    Form.selection selection.encode selection :=
  ⟨PcrSelection.bitmap selection.pcrs, by rw [PcrSelection.length_bitmap]; decide,
    PcrSelection.setBits_bitmap ascending, by simp [PcrSelection.encode]⟩

theorem Form.ascending_of_selection {bytes : Bytes} {selection : PcrSelection}
    (formed : Form.selection bytes selection) : PcrSelection.Ascending selection.pcrs := by
  rcases formed with ⟨bitmap, _, positions, _⟩
  exact PcrSelection.ascending_of_setBits_eq positions

end HostAttestation
