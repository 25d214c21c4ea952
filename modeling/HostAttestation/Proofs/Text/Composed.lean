import HostAttestation.Text.Composed
import Mathlib.Data.List.Basic

/-! # Texts that are composed as they are

A character is simple if it stands for no others, is no mark with a class of its own, and is never
put together with what stands before it. A text of simple characters is its own composed form. -/

namespace HostAttestation

namespace Text

structure IsSimple (c : Char) : Prop where
  partless : parts? c = none
  classless : combiningClass c = 0
  apart : ∀ base, whole? base c = none

theorem isSimple_of_lt {c : Char} (low : c.toNat < firstComposite) : IsSimple c := by
  have unmarked : c.toNat < firstMark := Nat.lt_trans low (by decide)
  exact {
    partless := by rw [parts?, if_pos low]
    classless := by rw [combiningClass, if_pos unmarked]
    apart := fun base => by rw [whole?, if_pos unmarked] }

theorem IsSimple.takenApart_eq {c : Char} (simple : IsSimple c) (depth : Nat) :
    takenApart depth c = [c] := by
  cases depth with
  | zero => rfl
  | succ depth => rw [takenApart, simple.partless]

section

variable {text : List Char} (simple : ∀ c ∈ text, IsSimple c)

include simple

theorem decompose_of_isSimple : decompose text = text := by
  rw [decompose, List.flatMap_congr fun c member => (simple c member).takenApart_eq 3]
  exact List.flatMap_singleton' text

theorem orderMarks_of_isSimple : orderMarks text = text := by
  induction text with
  | nil => rfl
  | cons c rest induction =>
      rcases List.forall_mem_cons.mp simple with ⟨_, others⟩
      rw [orderMarks, induction others]
      cases rest with
      | nil => rfl
      | cons next more =>
          rw [placeMark, (others next List.mem_cons_self).classless, if_neg]
          rintro ⟨positive, _⟩
          exact absurd positive (Nat.lt_irrefl 0)

theorem putTogether_of_isSimple (base : Char) : putTogether ⟨base, []⟩ text = base :: text := by
  induction text generalizing base with
  | nil => rfl
  | cons c rest induction =>
      rcases List.forall_mem_cons.mp simple with ⟨first, others⟩
      have alone : Cluster.takeIn? ⟨base, []⟩ c = none := by
        rw [Cluster.takeIn?, first.apart]
        rfl
      rw [putTogether, alone]
      dsimp only
      rw [if_pos first.classless, induction others c]
      rfl

theorem compose_of_isSimple : compose text = text := by
  rw [compose, decompose_of_isSimple simple, orderMarks_of_isSimple simple]
  cases text with
  | nil => rfl
  | cons c rest => exact putTogether_of_isSimple (List.forall_mem_cons.mp simple).2 c

end

end Text

end HostAttestation
