import HostAttestation.Bytes.BigEndian
import Mathlib.Data.List.Induction

/-! # Big endian numbers and their bytes

The bytes of a width are the written forms of the numbers that fit into it, each of one number. -/

namespace HostAttestation

namespace BigEndian

theorem capacity_succ (width : Nat) : capacity (width + 1) = 256 * capacity width :=
  Nat.mul_comm (capacity width) 256

theorem decode_lt_capacity (bytes : Bytes) : decode bytes < capacity bytes.length := by
  induction bytes using List.reverseRecOn with
  | nil => decide
  | append_singleton bytes byte induction =>
      have size := byte.toNat_lt
      rw [decode_append, List.length_append, List.length_singleton, capacity_succ]
      omega

theorem encode_decode (bytes : Bytes) : encode bytes.length (decode bytes) = bytes := by
  induction bytes using List.reverseRecOn with
  | nil => rfl
  | append_singleton bytes byte induction =>
      have size := byte.toNat_lt
      have quotient : (decode bytes * 256 + byte.toNat) / 256 = decode bytes := by omega
      have remainder : (decode bytes * 256 + byte.toNat) % 256 = byte.toNat := by omega
      rw [List.length_append, List.length_singleton, encode, decode_append, quotient, remainder,
        induction]
      simp

theorem decode_encode_of_lt {width number : Nat} (fits : number < capacity width) :
    decode (encode width number) = number := by
  rw [decode_encode, Nat.mod_eq_of_lt fits]

/-- A string of bytes stands for one number of its width. -/
theorem eq_encode_iff (width number : Nat) (bytes : Bytes) :
    bytes = encode width number ∧ number < capacity width ↔
      bytes.length = width ∧ decode bytes = number := by
  constructor
  · rintro ⟨rfl, fits⟩
    exact ⟨length_encode width number, decode_encode_of_lt fits⟩
  · rintro ⟨rfl, rfl⟩
    exact ⟨(encode_decode bytes).symm, decode_lt_capacity bytes⟩

theorem mod_eq_of_encode_eq {width left right : Nat}
    (same : encode width left = encode width right) :
    left % capacity width = right % capacity width := by
  rw [← decode_encode, ← decode_encode, same]

end BigEndian

end HostAttestation
