import HostAttestation.Proofs.Quote.Layout
import Mathlib.Data.List.Dedup
import Mathlib.Data.Nat.Bitwise
import Mathlib.Order.Bounds.Basic

/-! # Selections bit by bit

A selection is written by setting one bit for each of its registers, in whatever order they come
and however often, and it is read by testing every bit of every byte. What is read are the
positions of the set bits in ascending order, as long as there is a register for each of them;
bytes without a set bit do not count. -/

namespace HostAttestation

open BigEndian (capacity encode)

namespace PcrSelection

theorem isSet_bitmap_iff (pcrs : List PcrIndex) (position : Nat) :
    isSet (bitmap pcrs) position ↔ ∃ pcr ∈ pcrs, pcr.value = position := by
  rw [← mem_setBits_iff_isSet, mem_setBits_bitmap_iff, List.mem_map]

theorem testBit_eq_false_of_le (byte : UInt8) {bit : Nat} (beyond : 8 ≤ bit) :
    byte.toNat.testBit bit = false :=
  Nat.testBit_lt_two_pow
    (Nat.lt_of_lt_of_le byte.toNat_lt (Nat.pow_le_pow_right (by decide) beyond))

/-- Bitmaps of one length are told apart by their set bits. -/
theorem eq_of_isSet_iff {left right : Bytes} (lengths : left.length = right.length)
    (same : ∀ position, isSet left position ↔ isSet right position) : left = right := by
  refine List.ext_getElem lengths fun place leftInside rightInside => ?_
  apply UInt8.toNat_inj.mp
  refine Nat.eq_of_testBit_eq fun bit => ?_
  by_cases small : bit < 8
  · have split : (8 * place + bit) / 8 = place ∧ (8 * place + bit) % 8 = bit := by omega
    have here := same (8 * place + bit)
    simp only [isSet, split, List.getElem?_eq_getElem leftInside,
      List.getElem?_eq_getElem rightInside] at here
    exact Bool.eq_iff_iff.mpr here
  · rw [testBit_eq_false_of_le _ (by omega), testBit_eq_false_of_le _ (by omega)]

theorem isSet_append_replicate (bytes : Bytes) (count position : Nat) :
    isSet (bytes ++ List.replicate count 0) position = isSet bytes position := by
  rw [isSet, isSet]
  by_cases inside : position / 8 < bytes.length
  · rw [List.getElem?_append_left inside]
  · have outside : bytes.length ≤ position / 8 := Nat.le_of_not_lt inside
    rw [List.getElem?_append_right outside, List.getElem?_eq_none outside, List.getElem?_replicate]
    by_cases padding : position / 8 - bytes.length < count <;> simp [padding]

theorem setBits_append_replicate (bytes : Bytes) (count : Nat) :
    setBits 0 (bytes ++ List.replicate count 0) = setBits 0 bytes := by
  apply (pairwise_setBits 0 _).eq_of_mem_iff (pairwise_setBits 0 _)
  intro position
  rw [mem_setBits_iff_isSet, mem_setBits_iff_isSet, isSet_append_replicate]

/-! ## Setting bits -/

theorem place_lt (pcr : PcrIndex) : pcr.value / 8 < bitmapLength := by
  have below : pcr.value < 24 := pcr.below
  rw [bitmapLength]
  omega

/-- A byte with one set bit. -/
def bitMask (bit : Nat) : UInt8 :=
  1 <<< UInt8.ofNat bit

theorem toNat_bitMask {bit : Nat} (small : bit < 8) : (bitMask bit).toNat = 2 ^ bit := by
  have fits : 2 ^ bit < 2 ^ 8 := Nat.pow_lt_pow_right (by decide) small
  have amount : (UInt8.ofNat bit).toNat % 8 = bit := by
    rw [UInt8.toNat_ofNat']
    omega
  rw [bitMask, UInt8.toNat_shiftLeft, amount, UInt8.toNat_one, Nat.one_shiftLeft,
    Nat.mod_eq_of_lt fits]

/-- Sets the bit of a register. -/
def mark (bytes : Vector UInt8 bitmapLength) (pcr : PcrIndex) : Vector UInt8 bitmapLength :=
  have inside := place_lt pcr
  bytes.set (pcr.value / 8) (bytes[pcr.value / 8] ||| bitMask (pcr.value % 8))

def markAll (pcrs : List PcrIndex) : Vector UInt8 bitmapLength :=
  pcrs.foldl mark (Vector.replicate bitmapLength 0)

theorem isSet_mark_iff (bytes : Vector UInt8 bitmapLength) (pcr : PcrIndex) (position : Nat) :
    isSet (mark bytes pcr).toList position ↔ isSet bytes.toList position ∨ pcr.value = position := by
  have inside := place_lt pcr
  by_cases place : pcr.value / 8 = position / 8
  · have here : position / 8 < bitmapLength := place ▸ inside
    have bits : pcr.value % 8 = position % 8 ↔ pcr.value = position := by omega
    have changed : (mark bytes pcr)[position / 8] =
        bytes[position / 8] ||| bitMask (pcr.value % 8) := by
      simp only [mark, place, Vector.getElem_set_self]
    simp only [isSet, Vector.getElem?_toList, Vector.getElem?_eq_getElem here, changed,
      UInt8.toNat_or, Nat.testBit_or, Bool.or_eq_true]
    rw [toNat_bitMask (by omega), Nat.testBit_two_pow, decide_eq_true_eq, bits]
  · have other : pcr.value ≠ position := fun same => place (by rw [same])
    have kept : (mark bytes pcr)[position / 8]? = bytes[position / 8]? :=
      Vector.getElem?_set_ne inside place
    simp only [isSet, Vector.getElem?_toList, kept, other, or_false]

/-- By induction on the registers, the bytes being whatever was marked so far. -/
theorem isSet_foldl_mark_iff (pcrs : List PcrIndex) (bytes : Vector UInt8 bitmapLength)
    (position : Nat) :
    isSet (pcrs.foldl mark bytes).toList position ↔
      isSet bytes.toList position ∨ ∃ pcr ∈ pcrs, pcr.value = position := by
  induction pcrs generalizing bytes with
  | nil => simp
  | cons pcr rest induction =>
      rw [List.foldl_cons, induction, isSet_mark_iff, List.exists_mem_cons_iff, or_assoc]

theorem isSet_markAll_iff (pcrs : List PcrIndex) (position : Nat) :
    isSet (markAll pcrs).toList position ↔ ∃ pcr ∈ pcrs, pcr.value = position := by
  have clear : ¬isSet (Vector.replicate bitmapLength (0 : UInt8)).toList position := by
    rw [Vector.toList_replicate, ← List.nil_append (List.replicate _ _), isSet_append_replicate]
    simp [isSet]
  rw [markAll, isSet_foldl_mark_iff, or_iff_right clear]

theorem toList_markAll (pcrs : List PcrIndex) : (markAll pcrs).toList = bitmap pcrs := by
  refine eq_of_isSet_iff (by simp) fun position => ?_
  rw [isSet_markAll_iff, isSet_bitmap_iff]

/-! ## Testing bits -/

/-- The register of a position, if there is one. -/
def indexOf (bank : PcrBank) (position : Nat) : Except QuoteFault PcrIndex :=
  match PcrIndex.ofNat? position with
  | some index => .ok index
  | none => .error (.unknownIndex position bank)

theorem indexOf_eq_ok_iff (bank : PcrBank) (position : Nat) (index : PcrIndex) :
    indexOf bank position = .ok index ↔ position = index.value := by
  rw [indexOf, ← PcrIndex.ofNat?_eq_some_iff]
  cases PcrIndex.ofNat? position <;> simp

theorem indexOf_eq_error_iff (bank : PcrBank) (position : Nat) (fault : QuoteFault) :
    indexOf bank position = .error fault ↔
      pcrCount ≤ position ∧ fault = .unknownIndex position bank := by
  unfold indexOf PcrIndex.ofNat?
  by_cases below : position < pcrCount
  · simp [below]
  · simp [below, Nat.le_of_not_lt below, eq_comm]

theorem exists_indexOf_eq_ok_iff (bank : PcrBank) (position : Nat) :
    (∃ index, indexOf bank position = .ok index) ↔ position < pcrCount := by
  simp only [indexOf_eq_ok_iff]
  constructor
  · rintro ⟨index, rfl⟩
    exact index.below
  · intro below
    exact ⟨⟨position, below⟩, rfl⟩

theorem indexes_eq_mapM (bank : PcrBank) (positions : List Nat) :
    indexes bank positions = positions.mapM (indexOf bank) := by
  induction positions with
  | nil => rfl
  | cons position rest induction =>
      rw [List.mapM_cons, indexes, ← induction, indexOf]
      cases PcrIndex.ofNat? position <;> rfl

theorem exists_indexes_eq_ok_iff (bank : PcrBank) (positions : List Nat) :
    (∃ pcrs, indexes bank positions = .ok pcrs) ↔ ∀ position ∈ positions, position < pcrCount := by
  rw [indexes_eq_mapM, Outcome.exists_mapM_eq_ok_iff]
  simp only [exists_indexOf_eq_ok_iff]

/-- Of ascending positions the least one that has no register is the first one. -/
theorem indexes_eq_error_iff (bank : PcrBank) {positions : List Nat}
    (ascending : positions.Pairwise (· < ·)) (fault : QuoteFault) :
    indexes bank positions = .error fault ↔
      ∃ position, IsLeast {other | other ∈ positions ∧ pcrCount ≤ other} position ∧
        fault = .unknownIndex position bank := by
  rw [indexes_eq_mapM, Outcome.mapM_eq_error_iff]
  simp only [indexOf_eq_error_iff, exists_indexOf_eq_ok_iff]
  constructor
  · rintro ⟨before, position, after, rfl, passed, beyond, rfl⟩
    have behind := (List.pairwise_cons.mp (List.pairwise_append.mp ascending).2.1).1
    refine ⟨position, ⟨⟨by simp, beyond⟩, fun other listed => ?_⟩, rfl⟩
    rcases List.mem_append.mp listed.1 with earlier | here
    · exact absurd (passed other earlier) (Nat.not_lt.mpr listed.2)
    · rcases List.mem_cons.mp here with rfl | later
      · exact Nat.le_refl other
      · exact Nat.le_of_lt (behind other later)
  · rintro ⟨position, ⟨⟨member, beyond⟩, least⟩, rfl⟩
    rcases List.append_of_mem member with ⟨before, after, rfl⟩
    refine ⟨before, position, after, rfl, fun other earlier => ?_, beyond, rfl⟩
    have smaller := (List.pairwise_append.mp ascending).2.2 other earlier position (by simp)
    refine Nat.lt_of_not_le fun unknown => absurd (least ⟨?_, unknown⟩) (Nat.not_le.mpr smaller)
    exact List.mem_append_left _ earlier

/-- Takes up the register of a position behind others. -/
def add (bank : PcrBank) (pcrs : List PcrIndex) (position : Nat) :
    Except QuoteFault (List PcrIndex) :=
  (indexOf bank position).map fun index => pcrs ++ [index]

theorem foldlM_add_eq (bank : PcrBank) (positions : List Nat) (pcrs : List PcrIndex) :
    positions.foldlM (add bank) pcrs = (indexes bank positions).map (pcrs ++ ·) := by
  induction positions generalizing pcrs with
  | nil => exact congrArg Except.ok (List.append_nil pcrs).symm
  | cons position rest induction =>
      rw [List.foldlM_cons, indexes_eq_mapM, List.mapM_cons, ← indexes_eq_mapM, add]
      cases indexOf bank position with
      | error fault => rfl
      | ok index =>
          change rest.foldlM (add bank) (pcrs ++ [index]) = _
          rw [induction]
          cases indexes bank rest with
          | error fault => rfl
          | ok others => exact congrArg Except.ok (List.append_assoc pcrs [index] others)

/-- The registers of a byte at a place of a bitmap, bit by bit. -/
def scanByte (bank : PcrBank) (pcrs : List PcrIndex) (byte : UInt8) (place : Nat) :
    Except QuoteFault (List PcrIndex) :=
  (List.range 8).foldlM
    (fun pcrs bit =>
      if byte &&& bitMask bit = 0 then .ok pcrs else add bank pcrs (place * 8 + bit))
    pcrs

/-- The registers of a bitmap, byte by byte. -/
def scan (bank : PcrBank) (bytes : Bytes) : Except QuoteFault (List PcrIndex) :=
  bytes.zipIdx.foldlM (fun pcrs item => scanByte bank pcrs item.1 item.2) []

theorem and_bitMask_eq_zero_iff (byte : UInt8) {bit : Nat} (small : bit < 8) :
    byte &&& bitMask bit = 0 ↔ byte.toNat.testBit bit = false := by
  rw [← UInt8.toNat_inj, UInt8.toNat_and, toNat_bitMask small, Nat.and_two_pow, UInt8.toNat_zero]
  cases byte.toNat.testBit bit <;> simp

theorem foldlM_bits_eq (bank : PcrBank) (byte : UInt8) (place : Nat) {bits : List Nat}
    (small : ∀ bit ∈ bits, bit < 8) (pcrs : List PcrIndex) :
    bits.foldlM
        (fun pcrs bit =>
          if byte &&& bitMask bit = 0 then .ok pcrs else add bank pcrs (place * 8 + bit))
        pcrs =
      ((bits.filter fun bit => byte.toNat.testBit bit).map fun bit => place * 8 + bit).foldlM
        (add bank) pcrs := by
  induction bits generalizing pcrs with
  | nil => rfl
  | cons bit rest induction =>
      rcases List.forall_mem_cons.mp small with ⟨first, others⟩
      simp only [List.foldlM_cons, and_bitMask_eq_zero_iff byte first]
      cases set : byte.toNat.testBit bit with
      | false =>
          rw [List.filter_cons_of_neg (by simp [set]), ← induction others, if_pos rfl]
          rfl
      | true =>
          rw [List.filter_cons_of_pos set, List.map_cons, List.foldlM_cons, if_neg (by simp)]
          exact congrArg _ (funext fun reached => induction others reached)

theorem scanByte_eq (bank : PcrBank) (pcrs : List PcrIndex) (byte : UInt8) (place : Nat) :
    scanByte bank pcrs byte place = (byteBits (8 * place) byte).foldlM (add bank) pcrs := by
  rw [Nat.mul_comm 8 place]
  exact foldlM_bits_eq bank byte place (fun _ => List.mem_range.mp) pcrs

/-- By induction on the bytes, of which the first one is at some place of the bitmap. -/
theorem foldlM_scanByte_eq (bank : PcrBank) (bytes : Bytes) (place : Nat) (pcrs : List PcrIndex) :
    (bytes.zipIdx place).foldlM (fun pcrs item => scanByte bank pcrs item.1 item.2) pcrs =
      (setBits (8 * place) bytes).foldlM (add bank) pcrs := by
  induction bytes generalizing place pcrs with
  | nil => rfl
  | cons byte rest induction =>
      rw [List.zipIdx_cons, List.foldlM_cons, setBits, List.foldlM_append, scanByte_eq]
      exact congrArg _ (funext fun reached => induction (place + 1) reached)

theorem scan_eq_indexes (bank : PcrBank) (bytes : Bytes) :
    scan bank bytes = indexes bank (setBits 0 bytes) := by
  rw [scan, foldlM_scanByte_eq, foldlM_add_eq]
  cases indexes bank (setBits (8 * 0) bytes) <;> rfl

/-! ## Registers in order -/

/-- Each of the registers once, in ascending order. -/
def inOrder (pcrs : List PcrIndex) : List PcrIndex :=
  pcrs.dedup.mergeSort fun left right => left.value ≤ right.value

theorem mem_inOrder_iff (pcrs : List PcrIndex) (pcr : PcrIndex) :
    pcr ∈ inOrder pcrs ↔ pcr ∈ pcrs := by
  rw [inOrder, List.mem_mergeSort, List.mem_dedup]

theorem ascending_inOrder (pcrs : List PcrIndex) : Ascending (inOrder pcrs) := by
  have sorted : (inOrder pcrs).Pairwise fun left right => left.value ≤ right.value :=
    (List.pairwise_mergeSort
      (fun _ _ _ before behind => by simp only [decide_eq_true_eq] at *; omega)
      (fun _ _ => by simp only [Bool.or_eq_true, decide_eq_true_eq]; omega) _).imp
      of_decide_eq_true
  have apart : (inOrder pcrs).Nodup :=
    (List.mergeSort_perm _ _).nodup_iff.mpr (List.nodup_dedup pcrs)
  refine (sorted.and apart).imp fun {left right} both => ?_
  have values : left.value ≠ right.value := fun same => both.2 <| by
    cases left
    cases right
    cases same
    rfl
  exact Nat.lt_of_le_of_ne both.1 values

theorem setBits_bitmap_eq (pcrs : List PcrIndex) :
    setBits 0 (bitmap pcrs) = (inOrder pcrs).map PcrIndex.value := by
  apply (pairwise_setBits 0 _).eq_of_mem_iff (List.pairwise_map.mpr (ascending_inOrder pcrs))
  intro position
  simp only [mem_setBits_bitmap_iff, List.mem_map, mem_inOrder_iff]

/-! ## Reading a bitmap -/

/-- A bank, and a bitmap behind its length. -/
def framed (bank : PcrBank) (bytes : Bytes) : Bytes :=
  BigEndian.encode 2 (algorithmId bank) ++ (BigEndian.encode 1 bytes.length ++ bytes)

theorem encode_eq_framed (selection : PcrSelection) :
    selection.encode = framed selection.bank (bitmap selection.pcrs) := by
  rw [encode, framed, length_bitmap, List.append_assoc]

theorem length_framed (bank : PcrBank) (bytes : Bytes) :
    (framed bank bytes).length = 3 + bytes.length := by
  simp only [framed, List.length_append, BigEndian.length_encode]
  omega

theorem run_framed (bank : PcrBank) {bytes : Bytes} (fits : bytes.length < capacity 1)
    (rest : Bytes) (offset : Nat) :
    read.run ⟨framed bank bytes ++ rest, offset⟩ =
      (indexes bank (setBits 0 bytes)).map fun pcrs =>
        (⟨bank, pcrs⟩, ⟨rest, offset + (framed bank bytes).length⟩) := by
  have known := (bankOfId?_eq_some_iff _ bank).mpr rfl
  rw [length_framed, framed, List.append_assoc, List.append_assoc, read,
    (Reads.number 2 "selection hash").run_bind_append ⟨rfl, algorithmId_lt_capacity bank⟩, known]
  dsimp only
  rw [(Reads.number 1 "sizeofSelect").run_bind_append ⟨rfl, fits⟩,
    (Reads.take bytes.length "pcrSelect").run_bind_append ⟨rfl, rfl⟩, BigEndian.length_encode,
    BigEndian.length_encode, Nat.add_assoc offset, Nat.add_assoc offset]
  cases indexes bank (setBits 0 bytes) <;> rfl

/-- A bitmap is read if there is a register for every set bit. The registers are those of the set
bits in ascending order; otherwise the least position without a register is named. Bytes without a
set bit may follow. -/
structure ReadsBits (bank : PcrBank) (bytes : Bytes) : Prop where
  succeeds : ∀ rest offset,
    (∃ result, read.run ⟨framed bank bytes ++ rest, offset⟩ = .ok result) ↔
      ∀ position, isSet bytes position → position < pcrCount
  result : ∀ rest offset selection next,
    read.run ⟨framed bank bytes ++ rest, offset⟩ = .ok (selection, next) →
      selection.bank = bank ∧ Ascending selection.pcrs ∧
      (∀ position, (∃ pcr ∈ selection.pcrs, pcr.value = position) ↔ isSet bytes position) ∧
      next = ⟨rest, offset + (framed bank bytes).length⟩
  fails : ∀ rest offset fault,
    read.run ⟨framed bank bytes ++ rest, offset⟩ = .error fault ↔
      ∃ position, IsLeast {other | isSet bytes other ∧ pcrCount ≤ other} position ∧
        fault = .unknownIndex position bank
  padded : ∀ count, bytes.length + count < capacity 1 → ∀ rest offset,
    (read.run ⟨framed bank (bytes ++ List.replicate count 0) ++ rest, offset⟩).map Prod.fst =
      (read.run ⟨framed bank bytes ++ rest, offset⟩).map Prod.fst

theorem readsBits (bank : PcrBank) {bytes : Bytes} (fits : bytes.length < capacity 1) :
    ReadsBits bank bytes where
  succeeds rest offset := by
    simp only [run_framed bank fits, Outcome.map_eq_ok_iff, ← mem_setBits_iff_isSet]
    rw [← exists_indexes_eq_ok_iff bank]
    constructor
    · rintro ⟨_, pcrs, read, rfl⟩
      exact ⟨pcrs, read⟩
    · rintro ⟨pcrs, read⟩
      exact ⟨_, pcrs, read, rfl⟩
  result rest offset selection next succeeds := by
    rw [run_framed bank fits] at succeeds
    rcases Outcome.map_eq_ok_iff.mp succeeds with ⟨pcrs, read, equal⟩
    have positions := (indexes_eq_ok_iff bank _ pcrs).mp read
    cases equal
    refine ⟨rfl, ascending_of_setBits_eq positions, fun position => ?_, rfl⟩
    rw [← mem_setBits_iff_isSet, positions, List.mem_map]
  fails rest offset fault := by
    simp only [run_framed bank fits, ← mem_setBits_iff_isSet]
    rw [← indexes_eq_error_iff bank (pairwise_setBits 0 bytes)]
    cases indexes bank (setBits 0 bytes) <;> simp [Except.map]
  padded count small rest offset := by
    have longer : (bytes ++ List.replicate count 0).length < capacity 1 := by
      rw [List.length_append, List.length_replicate]
      exact small
    rw [run_framed bank longer, run_framed bank fits, setBits_append_replicate]
    cases indexes bank (setBits 0 bytes) <;> rfl

/-- Whatever the registers are and however they are listed, they are written by setting their bits
one by one and read back in order, and the bytes that follow are left; and whatever a bitmap is. -/
theorem selection_codec :
    (∀ bank pcrs rest offset,
      read.run ⟨(PcrSelection.mk bank pcrs).encode ++ rest, offset⟩ =
        .ok (⟨bank, inOrder pcrs⟩, ⟨rest, offset + (PcrSelection.mk bank pcrs).encode.length⟩)) ∧
    (∀ pcrs, Ascending (inOrder pcrs) ∧ ∀ pcr, pcr ∈ inOrder pcrs ↔ pcr ∈ pcrs) ∧
    (∀ bank bytes, bytes.length < capacity 1 → ReadsBits bank bytes) ∧
    (∀ pcrs, bitmap pcrs = (markAll pcrs).toList) ∧
    ∀ bank bytes, indexes bank (setBits 0 bytes) = scan bank bytes := by
  refine ⟨fun bank pcrs rest offset => ?_,
    fun pcrs => ⟨ascending_inOrder pcrs, mem_inOrder_iff pcrs⟩,
    fun bank bytes fits => readsBits bank fits, fun pcrs => (toList_markAll pcrs).symm,
    fun bank bytes => (scan_eq_indexes bank bytes).symm⟩
  have fits : (bitmap pcrs).length < capacity 1 := by
    rw [length_bitmap]
    decide
  rw [encode_eq_framed, run_framed bank fits,
    (indexes_eq_ok_iff bank _ _).mpr (setBits_bitmap_eq pcrs)]
  rfl

/-- Four registers out of order, one of them twice. -/
def scattered : List PcrIndex :=
  [23, 0, 7, 0].filterMap PcrIndex.ofNat?

theorem selection_codec_scattered :
    (PcrSelection.mk .sha256 scattered).encode = [0x00, 0x0B, 3, 0x81, 0x00, 0x80] ∧
    read.run ⟨[0x00, 0x0B, 3, 0x81, 0x00, 0x80, 9], 5⟩ =
      .ok (⟨.sha256, inOrder scattered⟩, ⟨[9], 11⟩) ∧
    (inOrder scattered).map PcrIndex.value = [0, 7, 23] ∧
    [0x81, 0x00, 0x80, 0x01].length < capacity 1 ∧
    read.run ⟨framed .sha1 [0x81, 0x00, 0x80, 0x01] ++ [9], 5⟩ =
      .error (.unknownIndex 24 .sha1) := by
  have written : (PcrSelection.mk .sha256 scattered).encode = [0x00, 0x0B, 3, 0x81, 0x00, 0x80] := by
    decide
  have short : [0x81, 0x00, 0x80, 0x01].length < capacity 1 := by decide
  have beyond : isSet [0x81, 0x00, 0x80, 0x01] 24 := by decide
  have restored := selection_codec.1 .sha256 scattered [9] 5
  rw [written] at restored
  refine ⟨written, restored, (setBits_bitmap_eq scattered).symm.trans (by decide), short, ?_⟩
  exact ((selection_codec.2.2.1 .sha1 _ short).fails [9] 5 _).mpr
    ⟨24, ⟨⟨beyond, Nat.le_refl 24⟩, fun _ unknown => unknown.2⟩, rfl⟩

end PcrSelection

end HostAttestation
