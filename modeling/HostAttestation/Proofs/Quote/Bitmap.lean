import HostAttestation.Quote.Selection
import Mathlib.Algebra.Group.Nat.Defs
import Mathlib.Data.List.Sort

/-! # Bitmaps of registers

The positions of a bitmap come in strictly ascending order, those of a written bitmap are the
indexes that it was written for. So indexes in strictly ascending order are read back as they
were written. -/

namespace HostAttestation

namespace PcrSelection

/-- The number whose lowest bits are given. -/
def numberOfBits (isSet : Nat → Bool) (count : Nat) : Nat :=
  (List.range count).foldr (fun bit byte => if isSet bit then Nat.pow 2 bit + byte else byte) 0

theorem foldr_bits_eq (isSet : Nat → Bool) (bits : List Nat) (start : Nat) :
    bits.foldr (fun bit byte => if isSet bit then Nat.pow 2 bit + byte else byte) start =
      bits.foldr (fun bit byte => if isSet bit then Nat.pow 2 bit + byte else byte) 0 + start := by
  induction bits with
  | nil => simp
  | cons bit rest induction =>
      rw [List.foldr_cons, List.foldr_cons, induction]
      split
      · exact (Nat.add_assoc _ _ _).symm
      · rfl

theorem numberOfBits_succ (isSet : Nat → Bool) (count : Nat) :
    numberOfBits isSet (count + 1) =
      (if isSet count then 2 ^ count else 0) + numberOfBits isSet count := by
  rw [numberOfBits, List.range_succ, List.foldr_append, foldr_bits_eq, Nat.add_comm]
  rfl

theorem numberOfBits_lt (isSet : Nat → Bool) (count : Nat) :
    numberOfBits isSet count < 2 ^ count := by
  induction count with
  | zero => simp [numberOfBits]
  | succ count induction =>
      rw [numberOfBits_succ, Nat.pow_succ]
      split <;> omega

theorem testBit_numberOfBits (isSet : Nat → Bool) (count bit : Nat) :
    (numberOfBits isSet count).testBit bit = (decide (bit < count) && isSet bit) := by
  induction count with
  | zero => simp [numberOfBits]
  | succ count induction =>
      have below := numberOfBits_lt isSet count
      rw [numberOfBits_succ]
      rcases Nat.lt_trichotomy bit count with before | rfl | after
      · have inside : bit < count + 1 := Nat.lt_succ_of_lt before
        have kept : ((if isSet count then 2 ^ count else 0) + numberOfBits isSet count).testBit bit =
            (numberOfBits isSet count).testBit bit := by
          split
          · exact Nat.testBit_two_pow_add_gt before _
          · rw [Nat.zero_add]
        rw [kept, induction]
        simp [before, inside]
      · have clear : (numberOfBits isSet bit).testBit bit = false := Nat.testBit_lt_two_pow below
        cases set : isSet bit with
        | true =>
            rw [if_pos rfl, Nat.testBit_two_pow_add_eq, clear]
            simp
        | false => simp [clear]
      · have whole := numberOfBits_lt isSet (count + 1)
        have larger : 2 ^ (count + 1) ≤ 2 ^ bit := Nat.pow_le_pow_right (by omega) after
        rw [numberOfBits_succ] at whole
        rw [Nat.testBit_lt_two_pow (Nat.lt_of_lt_of_le whole larger)]
        simp [show ¬bit < count + 1 by omega]

theorem testBit_bitmapByte (pcrs : List PcrIndex) (first bit : Nat) (small : bit < 8) :
    (bitmapByte pcrs first).toNat.testBit bit = pcrs.any fun pcr => pcr.value = first + bit := by
  have fits : numberOfBits (fun bit => pcrs.any fun pcr => pcr.value = first + bit) 8 < 256 :=
    numberOfBits_lt _ 8
  have number : (bitmapByte pcrs first).toNat =
      numberOfBits (fun bit => pcrs.any fun pcr => pcr.value = first + bit) 8 := by
    change (UInt8.ofNat (numberOfBits _ 8)).toNat = _
    rw [UInt8.toNat_ofNat', Nat.mod_eq_of_lt fits]
  rw [number, testBit_numberOfBits]
  simp [small]

/-! ## Positions of a bitmap -/

theorem mem_byteBits_iff (first position : Nat) (byte : UInt8) :
    position ∈ byteBits first byte ↔
      ∃ bit, bit < 8 ∧ byte.toNat.testBit bit ∧ position = first + bit := by
  simp only [byteBits, List.mem_map, List.mem_filter, List.mem_range]
  constructor
  · rintro ⟨bit, ⟨small, set⟩, rfl⟩
    exact ⟨bit, small, set, rfl⟩
  · rintro ⟨bit, small, set, rfl⟩
    exact ⟨bit, ⟨small, set⟩, rfl⟩

theorem mem_setBits_iff (first position : Nat) (bytes : Bytes) :
    position ∈ setBits first bytes ↔
      ∃ index bit byte, bit < 8 ∧ bytes[index]? = some byte ∧ byte.toNat.testBit bit ∧
        position = first + 8 * index + bit := by
  induction bytes generalizing first with
  | nil => simp [setBits]
  | cons byte rest induction =>
      rw [setBits, List.mem_append, mem_byteBits_iff, induction]
      constructor
      · rintro (⟨bit, small, set, equal⟩ | ⟨index, bit, other, small, found, set, equal⟩)
        · exact ⟨0, bit, byte, small, rfl, set, equal⟩
        · exact ⟨index + 1, bit, other, small, found, set, by omega⟩
      · rintro ⟨index, bit, other, small, found, set, equal⟩
        cases index with
        | zero =>
            cases found
            exact .inl ⟨bit, small, set, equal⟩
        | succ index => exact .inr ⟨index, bit, other, small, found, set, by omega⟩

theorem le_of_mem_setBits {first position : Nat} {bytes : Bytes}
    (member : position ∈ setBits first bytes) : first ≤ position := by
  rcases (mem_setBits_iff first position bytes).mp member with ⟨index, bit, _, _, _, _, rfl⟩
  omega

theorem pairwise_byteBits (first : Nat) (byte : UInt8) :
    (byteBits first byte).Pairwise (· < ·) := by
  rw [byteBits, List.pairwise_map]
  exact (List.pairwise_lt_range.filter _).imp fun before => Nat.add_lt_add_left before first

theorem pairwise_setBits (first : Nat) (bytes : Bytes) :
    (setBits first bytes).Pairwise (· < ·) := by
  induction bytes generalizing first with
  | nil => exact .nil
  | cons byte rest induction =>
      refine List.pairwise_append.mpr ⟨pairwise_byteBits first byte, induction (first + 8), ?_⟩
      intro left leftMember right rightMember
      rcases (mem_byteBits_iff first left byte).mp leftMember with ⟨bit, small, -, rfl⟩
      have later := le_of_mem_setBits rightMember
      omega

theorem mem_setBits_bitmap_iff (pcrs : List PcrIndex) (position : Nat) :
    position ∈ setBits 0 (bitmap pcrs) ↔ position ∈ pcrs.map PcrIndex.value := by
  rw [mem_setBits_iff]
  constructor
  · rintro ⟨index, bit, byte, small, found, set, rfl⟩
    rw [bitmap, List.getElem?_map] at found
    rcases Option.map_eq_some_iff.mp found with ⟨place, placed, rfl⟩
    rcases List.getElem?_eq_some_iff.mp placed with ⟨_, rfl⟩
    rw [List.getElem_range, testBit_bitmapByte pcrs (8 * index) bit small] at set
    rcases List.any_eq_true.mp set with ⟨pcr, member, equal⟩
    exact List.mem_map.mpr ⟨pcr, member, by simpa using equal⟩
  · intro member
    rcases List.mem_map.mp member with ⟨pcr, pcrMember, rfl⟩
    have below : pcr.value < 24 := pcr.below
    have place : (List.range bitmapLength)[pcr.value / 8]? = some (pcr.value / 8) :=
      List.getElem?_range (by rw [bitmapLength]; omega)
    refine ⟨pcr.value / 8, pcr.value % 8, bitmapByte pcrs (8 * (pcr.value / 8)), by omega, ?_, ?_,
      by omega⟩
    · rw [bitmap, List.getElem?_map, place]
      rfl
    · rw [testBit_bitmapByte _ _ _ (by omega)]
      exact List.any_eq_true.mpr ⟨pcr, pcrMember, by simp; omega⟩

def Ascending (pcrs : List PcrIndex) : Prop :=
  pcrs.Pairwise fun left right => left.value < right.value

/-- Indexes in ascending order are the positions of their bitmap. -/
theorem setBits_bitmap {pcrs : List PcrIndex} (ascending : Ascending pcrs) :
    setBits 0 (bitmap pcrs) = pcrs.map PcrIndex.value :=
  (pairwise_setBits 0 (bitmap pcrs)).eq_of_mem_iff (List.pairwise_map.mpr ascending)
    (mem_setBits_bitmap_iff pcrs)

theorem ascending_of_setBits_eq {pcrs : List PcrIndex} {bytes : Bytes}
    (same : setBits 0 bytes = pcrs.map PcrIndex.value) : Ascending pcrs :=
  List.pairwise_map.mp (same ▸ pairwise_setBits 0 bytes)

@[simp]
theorem length_bitmap (pcrs : List PcrIndex) : (bitmap pcrs).length = bitmapLength := by
  simp [bitmap]

end PcrSelection

end HostAttestation
