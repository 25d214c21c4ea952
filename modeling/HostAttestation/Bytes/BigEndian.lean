import HostAttestation.Bytes.Hex

/-! # Big endian numbers

A number of a fixed width in bytes, most significant byte first. Writing keeps the lowest bytes
of a number that does not fit; main statements: the width is exact, and reading back gives the
number modulo what the width can hold. -/

namespace HostAttestation

namespace BigEndian

def encode : (width : Nat) → (number : Nat) → Bytes
  | 0, _ => []
  | width + 1, number => encode width (number / 256) ++ [UInt8.ofNat (number % 256)]

/-- How many numbers a width can hold. -/
def capacity (width : Nat) : Nat :=
  Nat.pow 256 width

def decode (bytes : Bytes) : Nat :=
  bytes.foldl (fun number byte => number * 256 + byte.toNat) 0

@[simp]
theorem length_encode (width number : Nat) : (encode width number).length = width := by
  induction width generalizing number with
  | zero => rfl
  | succ width induction => simp [encode, induction]

theorem decode_append (bytes : Bytes) (byte : UInt8) :
    decode (bytes ++ [byte]) = decode bytes * 256 + byte.toNat := by
  simp [decode]

theorem decode_encode (width number : Nat) :
    decode (encode width number) = number % capacity width := by
  induction width generalizing number with
  | zero => simp [encode, decode, capacity, Nat.mod_one]
  | succ width induction =>
      rw [encode, decode_append, induction]
      have digit : (UInt8.ofNat (number % 256)).toNat = number % 256 := by
        simp
      have wider : capacity (width + 1) = 256 * capacity width :=
        Nat.mul_comm (capacity width) 256
      rw [digit, wider, Nat.mod_mul]
      omega

end BigEndian

end HostAttestation
