import HostAttestation.Proofs.Url.Domain
import HostAttestation.Text.Blank

/-! # Labels of ideographs

The unified ideographs are a long row of code points without exceptions: none of them counts for
another one, has parts, is a mark, or is written from right to left. So a label of ideographs is
encoded as it stands, if it is not too long. The encoded label may then be too long to be taken for
one, and its domain is not read again. -/

namespace HostAttestation

namespace Text

namespace CodeTable

/-- No entry is about the code points of a row. -/
def leavesOut (table : CodeTable) (low high : Nat) : Bool :=
  table.entries.all fun entry => entry.last < low || high < entry.first

variable {table : CodeTable} {low high : Nat} {c : Char}

theorem contains_eq_false (out : table.leavesOut low high) (least : low ≤ c.toNat)
    (most : c.toNat ≤ high) : table.contains c = false := by
  rw [contains, List.any_eq_false]
  intro entry member held
  have apart := List.all_eq_true.mp out entry member
  simp only [CodeEntry.holds, Bool.and_eq_true, Bool.or_eq_true, decide_eq_true_eq] at held apart
  omega

theorem find?_eq_none (out : table.leavesOut low high) (least : low ≤ c.toNat)
    (most : c.toNat ≤ high) : table.find? c = none := by
  rw [← Option.isNone_iff_eq_none, ← Option.not_isSome, isSome_find?, contains_eq_false out least most]
  rfl

end CodeTable

/-- The unified ideographs of the first plane. -/
structure IsIdeograph (c : Char) : Prop where
  least : 0x4E00 ≤ c.toNat
  most : c.toNat ≤ 0x9FFF

namespace IsIdeograph

variable {c : Char} (ideograph : IsIdeograph c)

include ideograph

theorem contains_eq_false {table : CodeTable} (out : table.leavesOut 0x4E00 0x9FFF) :
    table.contains c = false :=
  CodeTable.contains_eq_false out ideograph.least ideograph.most

theorem find?_eq_none {table : CodeTable} (out : table.leavesOut 0x4E00 0x9FFF) :
    table.find? c = none :=
  CodeTable.find?_eq_none out ideograph.least ideograph.most

theorem ne_of_isAscii {other : Char} (ascii : Punycode.isAscii other) : c ≠ other := by
  rintro rfl
  have least := ideograph.least
  have small : c.toNat < 128 := of_decide_eq_true ascii
  omega

theorem isAscii_eq_false : Punycode.isAscii c = false :=
  Bool.eq_false_iff.mpr fun ascii => ideograph.ne_of_isAscii ascii rfl

/-! ## Composing -/

theorem isSimple : IsSimple c := by
  have least := ideograph.least
  have most := ideograph.most
  have whole : composites.entries.all fun entry =>
      entry.values.all fun value => value < 0x4E00 || 0x9FFF < value := by decide +kernel
  refine ⟨?_, ?_, fun base => ?_⟩
  · have syllable : isSyllable c.toNat = false := by
      rw [isSyllable, firstSyllable, Bool.and_eq_false_iff, decide_eq_false_iff_not]
      omega
    rw [parts?, if_neg (by unfold firstComposite; omega), syllable, if_neg Bool.false_ne_true,
      ideograph.find?_eq_none (by decide +kernel)]
    rfl
  · rw [combiningClass, ideograph.find?_eq_none (by decide +kernel)]
    exact ite_self 0
  · have unsyllabic : syllable? base.toNat c.toNat = none := by
      rw [syllable?, if_neg, if_neg]
      · unfold noTrailing trailingCount
        omega
      · unfold firstVowel vowelCount
        omega
    have unlisted : composites.entries.find? (·.values = [base.toNat, c.toNat]) = none := by
      rw [List.find?_eq_none]
      intro entry member equal
      have values := List.all_eq_true.mp whole entry member
      rw [of_decide_eq_true equal] at values
      simp at values
      omega
    rw [whole?, if_neg (by unfold firstMark; omega), unsyllabic, unlisted]
    rfl

theorem isBlank_eq_false : isBlank c = false := by
  have least := ideograph.least
  have below : blankRanges.all fun range => range.2 < 0x4E00 := by decide
  rw [isBlank, inRanges, List.any_eq_false]
  intro range listed held
  have highest := of_decide_eq_true (List.all_eq_true.mp below range listed)
  simp only [Bool.and_eq_true, decide_eq_true_eq] at held
  omega

theorem isMark_eq_false : isMark c = false := by
  rw [isMark, isNonspacingMark, ideograph.contains_eq_false (by decide +kernel),
    ideograph.contains_eq_false (by decide +kernel)]
  rfl

end IsIdeograph

end Text

namespace Domain

open Text (IsIdeograph)
open Punycode (isAscii)

theorem fold?_of_isIdeograph {c : Char} (ideograph : IsIdeograph c) : fold? c = some [c] := by
  have least := ideograph.least
  rw [fold?, if_neg (by omega), ideograph.contains_eq_false (by decide +kernel),
    ideograph.contains_eq_false (by decide +kernel), ideograph.find?_eq_none (by decide +kernel),
    ideograph.find?_eq_none (by decide +kernel)]
  rfl

theorem isRightward_of_isIdeograph {c : Char} (ideograph : IsIdeograph c) :
    (Direction.of c).isRightward = false := by
  have least := ideograph.least
  rw [Direction.of, if_neg (by omega), ideograph.contains_eq_false (by decide +kernel),
    ideograph.contains_eq_false (by decide +kernel), ideograph.contains_eq_false (by decide +kernel)]
  simp only [Bool.false_eq_true, if_false]
  split
  next => rfl
  next =>
    split
    next => rfl
    next => split <;> rfl

theorem isAscii_of_isForbidden {c : Char} (unfit : isForbidden c) : isAscii c := by
  rw [isForbidden, Bool.or_eq_true, Bool.or_eq_true, decide_eq_true_eq, decide_eq_true_eq] at unfit
  rcases unfit with (low | rfl) | listed
  · exact decide_eq_true (Nat.lt_of_le_of_lt low (by decide))
  · rfl
  · exact List.all_eq_true.mp (by decide : forbidden.all isAscii) c (List.contains_iff_mem.mp listed)

/-! ## A label of ideographs -/

section

variable {label : List Char} (ideographs : ∀ c ∈ label, IsIdeograph c)

include ideographs

theorem not_mem_of_isIdeograph {c : Char} (ascii : isAscii c) : c ∉ label := fun member =>
  (ideographs c member).ne_of_isAscii ascii rfl

theorem foldAll?_of_isIdeograph : foldAll? label = some label := by
  induction label with
  | nil => rfl
  | cons c rest induction =>
      rcases List.forall_mem_cons.mp ideographs with ⟨first, others⟩
      rw [foldAll?, fold?_of_isIdeograph first, induction others]
      rfl

theorem joinersFit_of_isIdeograph (before : List Char) : joinersFit before label := by
  induction label generalizing before with
  | nil => rfl
  | cons c rest induction =>
      rcases List.forall_mem_cons.mp ideographs with ⟨first, others⟩
      have least := first.least
      have joins : c ≠ joiner := by rintro rfl; exact absurd least (by decide)
      have parts : c ≠ nonJoiner := by rintro rfl; exact absurd least (by decide)
      rw [joinersFit, joinerFits, if_neg joins, if_neg parts, induction others]
      rfl

theorem isProper_of_isIdeograph : isProper label := by
  rw [isProper, joinersFit_of_isIdeograph ideographs, Bool.and_true]
  cases label with
  | nil => rfl
  | cons c rest =>
      rw [List.head?_cons, Option.any_some, (ideographs c List.mem_cons_self).isMark_eq_false]
      rfl

theorem directionsFit_of_isIdeograph : directionsFit [label] := by
  have leftward : (label.map Direction.of).any Direction.isRightward = false := by
    rw [List.any_map, List.any_eq_false]
    intro c member
    simp [isRightward_of_isIdeograph (ideographs c member)]
  simp [directionsFit, leftward]

theorem ofFolded?_of_isIdeograph (filled : label ≠ []) (short : label.length ≤ meaningLimit) :
    Label.ofFolded? label = some ⟨mark ++ Punycode.encode label, label⟩ := by
  have fit : ¬label.any isForbidden := by
    rw [List.any_eq_true]
    rintro ⟨c, member, unfit⟩
    exact not_mem_of_isIdeograph ideographs (isAscii_of_isForbidden unfit) member
  have proper := isProper_of_isIdeograph ideographs
  cases label with
  | nil => exact absurd rfl filled
  | cons c rest =>
      have first := ideographs c List.mem_cons_self
      have unmarked : ¬mark.isPrefixOf (c :: rest) := by
        have unequal : ('x' == c) = false :=
          beq_eq_false_iff_ne.mpr (first.ne_of_isAscii (by decide)).symm
        rw [mark, List.isPrefixOf_cons_cons, unequal]
        exact Bool.false_ne_true
      have beyond : ¬(c :: rest).all isAscii := by
        rw [List.all_cons, first.isAscii_eq_false]
        exact Bool.false_ne_true
      rw [Label.ofFolded?, if_neg fit, if_neg unmarked, if_neg beyond, if_pos]
      rw [proper, Bool.and_true, decide_eq_true short]

theorem write?_of_isIdeograph (filled : label ≠ []) (short : label.length ≤ meaningLimit) :
    write? label = some (mark ++ Punycode.encode label) := by
  have composed := Text.compose_of_isSimple fun c member => (ideographs c member).isSimple
  have whole : '.' ∉ label := not_mem_of_isIdeograph ideographs (by decide)
  refine write?_eq_some_iff.mpr ⟨label, [⟨mark ++ Punycode.encode label, label⟩],
    foldAll?_of_isIdeograph ideographs, ?_, rfl, by simp [mark],
    directionsFit_of_isIdeograph ideographs⟩
  rw [composed, Text.split_of_not_mem whole, List.mapM_cons,
    ofFolded?_of_isIdeograph ideographs filled short]
  rfl

theorem mem_marks_of_mem_encode {c : Char} (member : c ∈ Punycode.encode label) :
    c ∈ Punycode.marks := by
  rcases Punycode.mem_encode member with ⟨inside, ascii⟩ | mark
  · exact absurd inside (not_mem_of_isIdeograph ideographs ascii)
  · exact mark

end

/-! ## Encoded labels that are too long -/

theorem write?_eq_none_of_long {encoded : List Char} (digits : ∀ c ∈ encoded, c ∈ Punycode.marks)
    (long : encodedLimit < encoded.length) : write? (mark ++ encoded) = none := by
  have plain : ∀ c ∈ mark ++ encoded, isAscii c ∧ c.toLower = c ∧ c ≠ '.' := by
    have all : (mark ++ Punycode.marks).all fun c => isAscii c && c.toLower == c && c ≠ '.' := by
      decide
    intro c member
    have listed : c ∈ mark ++ Punycode.marks :=
      (List.mem_append.mp member).elim (List.mem_append_left _)
        fun later => List.mem_append_right _ (digits c later)
    simpa [and_assoc] using List.all_eq_true.mp all c listed
  have folded : foldAll? (mark ++ encoded) = some (mark ++ encoded) := by
    rw [foldAll?_of_isAscii fun c member => (plain c member).1,
      List.map_congr_left fun c member => (plain c member).2.1, List.map_id']
  have composed := Text.compose_of_isAscii fun c member => (plain c member).1
  have whole : '.' ∉ mark ++ encoded := fun dotted => (plain '.' dotted).2.2 rfl
  have refused : Label.ofFolded? (mark ++ encoded) = none := by
    rw [Label.ofFolded?]
    split
    next => rfl
    next =>
      rw [if_pos (by simp), Option.eq_none_iff_forall_ne_some]
      intro label read
      have fits := (written_of_ofMarked? read).2.2
      rw [List.drop_left] at fits
      omega
  rw [write?, folded]
  dsimp only [Option.bind_eq_bind, Option.bind_some]
  rw [composed, Text.split_of_not_mem whole, List.mapM_cons, refused]
  rfl

end Domain

end HostAttestation
