import HostAttestation.Url.Punycode
import Mathlib.Data.List.Basic

/-! # Encoded labels

An encoded label is made of the characters of the label in ASCII, hyphens and digits. It may be much
longer than the label: an insertion takes three digits as soon as it skips some thousand places. -/

namespace HostAttestation

namespace Punycode

/-! ## Characters -/

/-- The digits of encoded labels, and the hyphen before them. -/
def marks : List Char :=
  '-' :: (List.range 36).map digit

theorem digit_mem_marks {value : Nat} (small : value < 36) : digit value ∈ marks :=
  List.mem_cons_of_mem '-' (List.mem_map.mpr ⟨value, List.mem_range.mpr small, rfl⟩)

theorem threshold_le (bias position : Nat) : threshold bias position ≤ 26 :=
  Nat.min_le_left _ _

theorem mem_marks_of_mem_digits {bias position number : Nat} {c : Char}
    (member : c ∈ digits bias position number) : c ∈ marks := by
  fun_induction digits bias position number with
  | case1 position number last =>
      have bound := threshold_le bias position
      rw [List.mem_singleton] at member
      rw [member]
      exact digit_mem_marks (by omega)
  | case2 position number _ rest base induction =>
      have bound := threshold_le bias position
      rcases List.mem_cons.mp member with rfl | later
      · have remainder : rest % base < base := Nat.mod_lt rest (by omega)
        exact digit_mem_marks (by omega)
      · exact induction later

theorem mem_visit {first : State → Bool} {code : Nat} {state : State} {visited c : Char}
    (member : c ∈ (visit first code state visited).written) : c ∈ state.written ∨ c ∈ marks := by
  rw [visit] at member
  split at member
  next => exact .inl member
  next =>
    split at member
    next => exact (List.mem_append.mp member).imp_right mem_marks_of_mem_digits
    next => exact .inl member

theorem mem_foldl_visit {first : State → Bool} {code : Nat} {label : List Char} {state : State}
    {c : Char} (member : c ∈ (label.foldl (visit first code) state).written) :
    c ∈ state.written ∨ c ∈ marks := by
  induction label generalizing state with
  | nil => exact .inl member
  | cons visited rest induction =>
      rcases induction member with before | mark
      · exact mem_visit before
      · exact .inr mark

theorem mem_insertAll {first : State → Bool} {label : List Char} {next : Nat} {codes : List Nat}
    {state : State} {c : Char} (member : c ∈ (insertAll first label next codes state).written) :
    c ∈ state.written ∨ c ∈ marks := by
  induction codes generalizing next state with
  | nil => exact .inl member
  | cons code codes induction =>
      rcases induction member with before | mark
      · dsimp only at before
        have visited := mem_foldl_visit before
        exact visited
      · exact .inr mark

/-- A label beyond ASCII is written with its own characters of ASCII and digits. -/
theorem mem_encode {label : List Char} {c : Char} (member : c ∈ encode label) :
    (c ∈ label ∧ isAscii c) ∨ c ∈ marks := by
  rcases mem_insertAll member with kept | mark
  · dsimp only at kept
    split at kept
    next => cases kept
    next =>
      rcases List.mem_append.mp kept with own | hyphen
      · exact .inl (List.mem_filter.mp own)
      · rw [List.mem_singleton.mp hyphen]
        exact .inr List.mem_cons_self
  · exact .inr mark

/-! ## Lengths -/

theorem length_digits_pos (bias position number : Nat) :
    1 ≤ (digits bias position number).length := by
  rw [digits]
  split
  next => exact Nat.le_refl 1
  next => exact Nat.succ_le_succ (Nat.zero_le _)

/-- The highest threshold is 26 and the highest base is 35, so that two digits reach as far as
26 + 26 * 35. -/
theorem three_le_length_digits (bias position : Nat) {number : Nat} (large : 936 ≤ number) :
    3 ≤ (digits bias position number).length := by
  have bound := threshold_le bias position
  have least := threshold_pos bias position
  have next := threshold_le bias (position + 36)
  have further : 26 ≤ (number - threshold bias position) / (36 - threshold bias position) := by
    rw [Nat.le_div_iff_mul_le (by omega)]
    omega
  rw [digits, if_neg (by omega)]
  dsimp only
  rw [digits, if_neg (by omega)]
  dsimp only
  have last := length_digits_pos bias (position + 36 + 36)
    (((number - threshold bias position) / (36 - threshold bias position) -
      threshold bias (position + 36)) / (36 - threshold bias (position + 36)))
  simp only [List.length_cons]
  omega

/-- What has been written, and how many characters the label has, never become less. -/
structure State.Grows (before after : State) : Prop where
  written : before.written.length ≤ after.written.length
  count : before.count ≤ after.count

theorem State.Grows.refl (state : State) : state.Grows state :=
  ⟨Nat.le_refl _, Nat.le_refl _⟩

theorem State.Grows.trans {first second third : State} (front : first.Grows second)
    (behind : second.Grows third) : first.Grows third :=
  ⟨Nat.le_trans front.written behind.written, Nat.le_trans front.count behind.count⟩

section

variable (first : State → Bool) (code : Nat)

theorem grows_visit (state : State) (c : Char) : state.Grows (visit first code state c) := by
  rw [visit]
  split
  next => exact ⟨Nat.le_refl _, Nat.le_refl _⟩
  next =>
    split
    next =>
      refine ⟨?_, Nat.le_succ _⟩
      rw [List.length_append]
      exact Nat.le_add_right _ _
    next => exact .refl state

theorem grows_foldl_visit (label : List Char) (state : State) :
    state.Grows (label.foldl (visit first code) state) := by
  induction label generalizing state with
  | nil => exact .refl state
  | cons c rest induction => exact (grows_visit first code state c).trans (induction _)

/-- A character of the label with the code point is inserted. -/
theorem inserts_of_mem {label : List Char} {c : Char} (member : c ∈ label) (here : c.toNat = code)
    (state : State) :
    state.count + 1 ≤ (label.foldl (visit first code) state).count ∧
      (936 ≤ state.steps →
        state.written.length + 3 ≤ (label.foldl (visit first code) state).written.length) := by
  induction label generalizing state with
  | nil => cases member
  | cons visited rest induction =>
      rw [List.foldl_cons]
      by_cases found : visited.toNat = code
      · have inserted : visit first code state visited =
            { written := state.written ++ digits state.bias 36 state.steps
              steps := 0
              bias := adapt (first state) state.steps (state.count + 1)
              count := state.count + 1 } := by
          rw [visit, if_neg (by omega), if_pos found]
        have grown := grows_foldl_visit first code rest (visit first code state visited)
        rw [inserted] at grown ⊢
        refine ⟨grown.count, fun large => ?_⟩
        have three := three_le_length_digits state.bias 36 large
        have written := grown.written
        simp only [List.length_append] at written
        omega
      · have behind : c ∈ rest := by
          rcases List.mem_cons.mp member with rfl | behind
          · exact absurd here found
          · exact behind
        by_cases low : visited.toNat < code
        · have stepped : visit first code state visited = { state with steps := state.steps + 1 } := by
            rw [visit, if_pos low]
          have inserts := induction behind { state with steps := state.steps + 1 }
          rw [stepped]
          exact ⟨inserts.1, fun large => inserts.2 (Nat.le_succ_of_le large)⟩
        · have passed : visit first code state visited = state := by
            rw [visit, if_neg low, if_neg found]
          rw [passed]
          exact induction behind state

end

/-- Of characters that are spread over the code points, all but the first few take three digits. -/
theorem le_length_insertAll (first : State → Bool) {label : List Char} {skip least : Nat}
    (enough : 936 ≤ skip * (least + 1)) (start count next : Nat) (state : State)
    (apart : next + skip ≤ start)
    (listed : ∀ code ∈ List.range' start count (skip + 1), ∃ c ∈ label, c.toNat = code) :
    3 * (count + min state.count least) + state.written.length ≤
      (insertAll first label next (List.range' start count (skip + 1)) state).written.length +
        3 * least := by
  induction count generalizing start next state with
  | zero =>
      rw [List.range'_zero, insertAll]
      omega
  | succ count induction =>
      rw [List.range'_succ] at listed ⊢
      rcases List.forall_mem_cons.mp listed with ⟨⟨c, member, here⟩, others⟩
      rw [insertAll]
      have grown := (grows_foldl_visit first start label
        { state with steps := state.steps + (start - next) * (state.count + 1) }).written
      have ⟨counted, written⟩ := inserts_of_mem first start member here
        { state with steps := state.steps + (start - next) * (state.count + 1) }
      generalize label.foldl (visit first start)
        { state with steps := state.steps + (start - next) * (state.count + 1) } =
          inserted at grown counted written ⊢
      have later := induction (start + (skip + 1)) (start + 1)
        { inserted with steps := inserted.steps + 1 } (by omega) others
      dsimp only at grown counted written later
      -- The steps between two code points grow with the characters that are there already.
      by_cases few : state.count < least
      · omega
      · have skipped : skip * (least + 1) ≤ (start - next) * (state.count + 1) :=
          Nat.mul_le_mul (by omega) (by omega)
        have three := written (by omega)
        omega

theorem eraseDups_of_pairwise {codes : List Nat} (ascending : codes.Pairwise (· < ·)) :
    codes.eraseDups = codes := by
  induction codes with
  | nil => rfl
  | cons code rest induction =>
      rcases List.pairwise_cons.mp ascending with ⟨larger, others⟩
      have kept : rest.filter (fun other => !other == code) = rest :=
        List.filter_eq_self.mpr fun other member => by
          simpa using Nat.ne_of_gt (larger other member)
      rw [List.eraseDups_cons, kept, induction others]

theorem le_length_encode {label : List Char} {start count skip least : Nat}
    (codes : label.map Char.toNat = List.range' start count (skip + 1))
    (enough : 936 ≤ skip * (least + 1)) (beyond : 128 + skip ≤ start) :
    3 * count ≤ (encode label).length + 3 * least := by
  have ascending : (List.range' start count (skip + 1)).Pairwise (· < ·) :=
    List.pairwise_lt_range' (skip + 1) (Nat.succ_pos skip)
  have high : ∀ c ∈ label, isAscii c = false := by
    intro c member
    have listed : c.toNat ∈ List.range' start count (skip + 1) := by
      rw [← codes]
      exact List.mem_map_of_mem member
    rcases List.mem_range'.mp listed with ⟨index, _, equal⟩
    rw [isAscii, decide_eq_false_iff_not]
    omega
  have kept : label.filter isAscii = [] := List.filter_eq_nil_iff.mpr fun c member => by
    rw [high c member]
    exact Bool.false_ne_true
  have inserted : label.filter (!isAscii ·) = label := List.filter_eq_self.mpr fun c member => by
    rw [high c member]
    rfl
  have sorted : (List.range' start count (skip + 1)).mergeSort =
      List.range' start count (skip + 1) :=
    List.mergeSort_of_pairwise (ascending.imp fun smaller => by simpa using Nat.le_of_lt smaller)
  have listed : ∀ code ∈ List.range' start count (skip + 1), ∃ c ∈ label, c.toNat = code := by
    intro code member
    rw [← codes] at member
    simpa using member
  have bound := le_length_insertAll (fun state => state.count == 0) enough start count 128
    ⟨[], 0, 72, 0⟩ beyond listed
  rw [encode]
  simp only [kept, inserted, codes, sorted, eraseDups_of_pairwise ascending]
  simp only [List.length_nil, Nat.zero_min, Nat.add_zero] at bound
  exact bound

end Punycode

end HostAttestation
