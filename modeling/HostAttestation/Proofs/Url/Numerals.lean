import HostAttestation.Url.Parser
import Mathlib.Algebra.Group.Nat.Defs
import Mathlib.Data.List.Induction
import Mathlib.Data.List.TakeWhile

/-! # Numbers in addresses

The digits of a number are read as the number: those of a port in decimal, those of a piece of 16
bits in hexadecimal digits. -/

namespace HostAttestation

namespace Host

theorem value?_digitChar {value : Nat} (small : value < 16) :
    Hex.value? (Nat.digitChar value) = some value := by
  have all : ∀ value ∈ List.range 16, Hex.value? (Nat.digitChar value) = some value := by decide
  exact all value (List.mem_range.mpr small)

theorem numberOf_concat (base : Nat) (digits : List Char) {number value : Nat}
    (read : numberOf base digits = some number) (small : value < base) (most : base ≤ 16) :
    numberOf base (digits ++ [Nat.digitChar value]) = some (number * base + value) := by
  unfold numberOf at read ⊢
  rw [List.foldl_append, read, List.foldl_cons, List.foldl_nil,
    value?_digitChar (Nat.lt_of_lt_of_le small most)]
  exact if_pos small

theorem numberOf_toDigits {base : Nat} (least : 1 < base) (most : base ≤ 16) (number : Nat) :
    numberOf base (Nat.toDigits base number) = some number := by
  induction number using Nat.strongRecOn with
  | ind number induction =>
      rw [Nat.toDigits_eq_if least]
      split
      next small =>
        have empty : numberOf base [] = some 0 := rfl
        simpa using numberOf_concat base [] empty small most
      next large =>
        have positive : 0 < number := by omega
        have quotient := induction (number / base) (Nat.div_lt_self positive least)
        rw [numberOf_concat base _ quotient (Nat.mod_lt number (by omega)) most,
          Nat.div_add_mod' number base]

/-- What holds of every digit holds of every character of a number. -/
theorem all_toDigits {base : Nat} (least : 1 < base) {holds : Char → Bool}
    (digits : (List.range base).all fun value => holds (Nat.digitChar value)) (number : Nat) :
    ∀ c ∈ Nat.toDigits base number, holds c := by
  have single : ∀ value < base, holds (Nat.digitChar value) := fun value small =>
    List.all_eq_true.mp digits value (List.mem_range.mpr small)
  induction number using Nat.strongRecOn with
  | ind number induction =>
      rw [Nat.toDigits_eq_if least]
      split
      next small => simpa using single number small
      next large =>
        have positive : 0 < number := by omega
        intro c member
        rcases List.mem_append.mp member with front | last
        · exact induction (number / base) (Nat.div_lt_self positive least) c front
        · rw [List.mem_singleton.mp last]
          exact single _ (Nat.mod_lt number (by omega))

theorem numberOf_lt {base : Nat} {digits : List Char} {number : Nat}
    (read : numberOf base digits = some number) : number < base ^ digits.length := by
  induction digits using List.reverseRecOn generalizing number with
  | nil =>
      cases read
      exact Nat.one_pos
  | append_singleton digits c induction =>
      unfold numberOf at read induction
      rw [List.foldl_append, List.foldl_cons, List.foldl_nil] at read
      split at read
      next front value leading digit =>
        split at read
        next small =>
          cases read
          have bound := induction leading
          have next : (front + 1) * base ≤ base ^ digits.length * base :=
            Nat.mul_le_mul_right base bound
          rw [Nat.succ_mul] at next
          rw [List.length_append, List.length_singleton, Nat.pow_succ]
          omega
        next => cases read
      next => cases read

theorem piece?_toDigits {piece : Nat} (small : piece < 65536) :
    piece? (Nat.toDigits 16 piece) = some piece := by
  have short : (Nat.toDigits 16 piece).length ≤ 4 :=
    (Nat.length_toDigits_le_iff (by decide) (by decide)).mpr small
  rw [piece?, if_neg, numberOf_toDigits (by decide) (by decide)]
  rintro (empty | long)
  · exact Nat.toDigits_ne_nil empty
  · omega

/-- No more than four hexadecimal digits make no more than 16 bits. -/
theorem lt_of_piece? {digits : List Char} {piece : Nat} (read : piece? digits = some piece) :
    piece < 65536 := by
  rw [piece?] at read
  split at read
  next => cases read
  next short =>
    have bound := numberOf_lt read
    have longest : 16 ^ digits.length ≤ 16 ^ 4 := Nat.pow_le_pow_right (by decide) (by omega)
    omega

end Host

namespace Url

theorem foldl_toDigits (number : Nat) :
    (Nat.toDigits 10 number).foldl (fun number digit => number * 10 + (digit.toNat - 48)) 0 =
      number := by
  calc (Nat.toDigits 10 number).foldl (fun number digit => number * 10 + (digit.toNat - 48)) 0
      = Nat.ofDigitChars 10 (Nat.toDigits 10 number) 0 := by
        rw [Nat.ofDigitChars_eq_foldl]
        simp only [Nat.mul_comm 10]
        rfl
    _ = number := Nat.ofDigitChars_ten_toDigits

theorem port?_toDigits {scheme : String} {port : Nat} (small : port < 65536)
    (uncommon : defaultPort? scheme ≠ some port) :
    port? scheme (':' :: Nat.toDigits 10 port) = some (some port, []) := by
  have digits : ∀ c ∈ Nat.toDigits 10 port, isDigit c :=
    Host.all_toDigits (by decide) (by decide) port
  have front : (Nat.toDigits 10 port).takeWhile isDigit = Nat.toDigits 10 port :=
    List.takeWhile_eq_self_iff.mpr digits
  have behind : (Nat.toDigits 10 port).dropWhile isDigit = [] :=
    List.dropWhile_eq_nil_iff.mpr digits
  rw [port?]
  simp only [front, behind, foldl_toDigits]
  rw [if_pos ⟨small, rfl⟩, if_neg]
  rintro (empty | common)
  · exact Nat.toDigits_ne_nil empty
  · exact uncommon common

/-- A port that was read is none that goes without saying. -/
theorem port?_eq_some {scheme : String} {text rest : List Char} {port : Nat}
    (read : port? scheme text = some (some port, rest)) :
    port < 65536 ∧ defaultPort? scheme ≠ some port := by
  unfold port? at read
  split at read
  next digits =>
    dsimp only at read
    split at read
    next fits =>
      split at read
      next => cases read
      next uncommon =>
        cases read
        exact ⟨fits.1, fun common => uncommon (.inr common)⟩
    next => cases read
  next => cases read

end Url

end HostAttestation
