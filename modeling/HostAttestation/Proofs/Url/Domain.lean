import HostAttestation.Proofs.Outcome
import HostAttestation.Proofs.Text.Composed
import HostAttestation.Proofs.Url.Punycode
import HostAttestation.Url.Domain

/-! # Written domains

A written domain is made of characters that neither the text of an address nor an escape gives a
meaning to. A domain in ASCII is written in small letters and otherwise as it is, so writing it
again does not change it. -/

namespace HostAttestation

open Punycode (isAscii)

/-- What can be seen of the characters of ASCII one by one holds of all of them. -/
theorem holds_of_isAscii (holds : Char → Bool)
    (listed : (List.range 128).all fun code => holds (Char.ofNat code)) {c : Char}
    (ascii : isAscii c) : holds c := by
  have small : c.toNat < 128 := of_decide_eq_true ascii
  have single := List.all_eq_true.mp listed c.toNat (List.mem_range.mpr small)
  rwa [Char.ofNat_toNat] at single

theorem isAscii_of_isAlphanum {c : Char} (alphanumeric : c.isAlphanum) : isAscii c := by
  change ((decide (c.val ≥ 65 ∧ c.val ≤ 90) || (c.val ≥ 97 && c.val ≤ 122)) ||
    (c.val ≥ 48 && c.val ≤ 57)) = true at alphanumeric
  simp only [Bool.or_eq_true, Bool.and_eq_true, decide_eq_true_eq,
    UInt32.le_iff_toNat_le] at alphanumeric
  refine decide_eq_true (?_ : c.val.toNat < 128)
  rcases alphanumeric with (⟨_, highest⟩ | ⟨_, highest⟩) | ⟨_, highest⟩ <;>
    exact Nat.lt_of_le_of_lt highest (by decide)

namespace Domain

/-- The characters that written domains are made of. -/
def isWrittenChar (c : Char) : Bool :=
  isAscii c && !isForbidden c

theorem isWrittenChar_of_mem_marks {c : Char} (member : c ∈ Punycode.marks) : isWrittenChar c :=
  List.all_eq_true.mp (by decide : Punycode.marks.all isWrittenChar) c member

/-- What a label with the mark must be like at least; it stays as it is. -/
theorem written_of_ofMarked? {written : List Char} {label : Label}
    (read : Label.ofMarked? written = some label) :
    label.written = written ∧ (∀ c ∈ written.drop mark.length, isAscii c) ∧
      (written.drop mark.length).length ≤ encodedLimit := by
  rw [Label.ofMarked?] at read
  split at read
  next encoded =>
    rw [Bool.and_eq_true, decide_eq_true_eq] at encoded
    split at read
    next =>
      split at read
      next =>
        cases read
        exact ⟨rfl, List.all_eq_true.mp encoded.1, encoded.2⟩
      next => cases read
    next => cases read
  next => cases read

theorem isWrittenChar_of_ofFolded? {part : List Char} {label : Label}
    (read : Label.ofFolded? part = some label) {c : Char} (member : c ∈ label.written) :
    isWrittenChar c := by
  rw [Label.ofFolded?] at read
  split at read
  next => cases read
  next allowed =>
    have unforbidden (other : Char) (inside : other ∈ part) : isForbidden other = false := by
      rw [Bool.not_eq_true, List.any_eq_false] at allowed
      simpa using allowed other inside
    have own {other : Char} (inside : other ∈ part) (ascii : isAscii other) :
        isWrittenChar other := by
      rw [isWrittenChar, ascii, unforbidden other inside]
      rfl
    split at read
    next marked =>
      rcases written_of_ofMarked? read with ⟨kept, encoded, _⟩
      rw [kept] at member
      rcases List.isPrefixOf_iff_prefix.mp marked with ⟨behind, rfl⟩
      rw [List.drop_left] at encoded
      rcases List.mem_append.mp member with front | later
      · exact List.all_eq_true.mp (by decide : mark.all isWrittenChar) c front
      · exact own member (encoded c later)
    next =>
      split at read
      next ascii =>
        cases read
        exact own member (List.all_eq_true.mp ascii c member)
      next =>
        split at read
        next =>
          cases read
          rcases List.mem_append.mp member with front | later
          · exact List.all_eq_true.mp (by decide : mark.all isWrittenChar) c front
          · rcases Punycode.mem_encode later with ⟨inside, ascii⟩ | digit
            · exact own inside ascii
            · exact isWrittenChar_of_mem_marks digit
        next => cases read

theorem write?_eq_some_iff {text written : List Char} :
    write? text = some written ↔
      ∃ folded labels, foldAll? text = some folded ∧
        (Text.split '.' (Text.compose folded)).mapM Label.ofFolded? = some labels ∧
        Text.join '.' (labels.map Label.written) = written ∧ written ≠ [] ∧
        directionsFit (labels.map Label.meaning) := by
  rw [write?, Option.bind_eq_bind, Option.bind_eq_some_iff]
  refine exists_congr fun folded => ?_
  rw [exists_and_left, Option.bind_eq_bind, Option.bind_eq_some_iff]
  refine and_congr_right fun _ => exists_congr fun labels => and_congr_right fun _ => ?_
  rw [Option.ite_none_right_eq_some, Option.some.injEq, Bool.and_eq_true, Bool.not_eq_true',
    List.isEmpty_eq_false_iff]
  constructor
  · rintro ⟨⟨filled, fit⟩, rfl⟩
    exact ⟨rfl, filled, fit⟩
  · rintro ⟨rfl, filled, fit⟩
    exact ⟨⟨filled, fit⟩, rfl⟩

theorem isWrittenChar_of_write? {text written : List Char} (read : write? text = some written)
    {c : Char} (member : c ∈ written) : isWrittenChar c := by
  rcases write?_eq_some_iff.mp read with ⟨folded, labels, _, labelled, rfl, _, _⟩
  rcases Text.mem_join member with rfl | ⟨part, listed, inside⟩
  · decide
  · rcases List.mem_map.mp listed with ⟨label, isLabel, rfl⟩
    rcases Outcome.exists_of_mem_mapM labelled isLabel with ⟨source, _, ofSource⟩
    exact isWrittenChar_of_ofFolded? ofSource inside

theorem ne_nil_of_write? {text written : List Char} (read : write? text = some written) :
    written ≠ [] := by
  rcases write?_eq_some_iff.mp read with ⟨_, _, _, _, _, filled, _⟩
  exact filled

end Domain

theorem Text.compose_of_isAscii {text : List Char} (ascii : ∀ c ∈ text, isAscii c) :
    compose text = text :=
  compose_of_isSimple fun c member =>
    isSimple_of_lt (Nat.lt_trans (of_decide_eq_true (ascii c member)) (by decide))

/-! ## Domains in ASCII -/

namespace Domain

theorem isAscii_toLower {c : Char} (ascii : isAscii c) : isAscii c.toLower :=
  holds_of_isAscii (fun c => isAscii c.toLower) (by decide) ascii

theorem toLower_toLower {c : Char} (ascii : isAscii c) : c.toLower.toLower = c.toLower :=
  eq_of_beq (holds_of_isAscii (fun c => c.toLower.toLower == c.toLower) (by decide) ascii)

theorem foldAll?_of_isAscii {text : List Char} (ascii : ∀ c ∈ text, isAscii c) :
    foldAll? text = some (text.map Char.toLower) := by
  induction text with
  | nil => rfl
  | cons c rest induction =>
      rcases List.forall_mem_cons.mp ascii with ⟨first, others⟩
      have folded : fold? c = some [c.toLower] := by
        rw [fold?, if_pos (of_decide_eq_true first)]
      rw [foldAll?, folded, induction others]
      rfl

theorem written_of_ofFolded? {part : List Char} {label : Label}
    (ascii : ∀ c ∈ part, isAscii c) (read : Label.ofFolded? part = some label) :
    label.written = part := by
  rw [Label.ofFolded?] at read
  split at read
  next => cases read
  next =>
    split at read
    next => exact (written_of_ofMarked? read).1
    next =>
      rw [if_pos (List.all_eq_true.mpr ascii)] at read
      cases read
      rfl

section

variable {text written : List Char} (ascii : ∀ c ∈ text, isAscii c)

include ascii

/-- A domain in ASCII is written as it is, in small letters. -/
theorem eq_map_toLower_of_write? (read : write? text = some written) :
    written = text.map Char.toLower := by
  have lower : ∀ c ∈ text.map Char.toLower, isAscii c := by
    rintro _ member
    rcases List.mem_map.mp member with ⟨c, inside, rfl⟩
    exact isAscii_toLower (ascii c inside)
  rcases write?_eq_some_iff.mp read with ⟨folded, labels, folds, labelled, rfl, _, _⟩
  rw [foldAll?_of_isAscii ascii] at folds
  cases folds
  rw [Text.compose_of_isAscii lower] at labelled
  have same : labels.map Label.written = Text.split '.' (text.map Char.toLower) :=
    Outcome.map_eq_of_mapM labelled fun part listed label read =>
      written_of_ofFolded? (fun c inside => lower c (Text.mem_of_mem_split listed inside).1) read
  rw [same, Text.join_split]

/-- What was written is written as itself. -/
theorem write?_written (read : write? text = some written) : write? written = some written := by
  have lower := eq_map_toLower_of_write? ascii read
  have folded : foldAll? written = foldAll? text := by
    have small : ∀ c ∈ written, isAscii c := fun c member =>
      (Bool.and_eq_true_iff.mp (isWrittenChar_of_write? read member)).1
    rw [foldAll?_of_isAscii small, foldAll?_of_isAscii ascii, lower, List.map_map]
    exact congrArg some (List.map_congr_left fun c member => toLower_toLower (ascii c member))
  rwa [write?, folded]

end

end Domain

end HostAttestation
