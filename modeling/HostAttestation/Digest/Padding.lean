import HostAttestation.Bytes.BigEndian

/-! # Message padding

A message is closed by a one bit, zeros and its length in bits, so that it fills whole blocks.
Main statement: the padded length is a multiple of the block size. -/

namespace HostAttestation

namespace Padding

/-- The number of zero bytes between the closing bit and the length. -/
def zeros (blockSize lengthWidth messageLength : Nat) : Nat :=
  (blockSize - (messageLength + 1 + lengthWidth) % blockSize) % blockSize

def close (blockSize lengthWidth : Nat) (message : Bytes) : Bytes :=
  message ++ (0x80 :: List.replicate (zeros blockSize lengthWidth message.length) 0) ++
    BigEndian.encode lengthWidth (8 * message.length)

theorem blockSize_dvd_length_close (blockSize lengthWidth : Nat) (positive : 0 < blockSize)
    (message : Bytes) : blockSize ∣ (close blockSize lengthWidth message).length := by
  have total : (close blockSize lengthWidth message).length =
      (message.length + 1 + lengthWidth) + zeros blockSize lengthWidth message.length := by
    simp [close]
    omega
  rw [total, zeros, Nat.dvd_iff_mod_eq_zero]
  have small := Nat.mod_lt (message.length + 1 + lengthWidth) positive
  generalize message.length + 1 + lengthWidth = occupied at small ⊢
  rw [Nat.add_mod, Nat.mod_mod]
  by_cases whole : occupied % blockSize = 0
  · simp [whole]
  · rw [Nat.mod_eq_of_lt (show blockSize - occupied % blockSize < blockSize by omega),
      Nat.add_sub_cancel' (Nat.le_of_lt small), Nat.mod_self]

/-- The first `count` parts of `size` elements each. -/
def parts (size : Nat) : (count : Nat) → List α → List (List α)
  | 0, _ => []
  | count + 1, list => list.take size :: parts size count (list.drop size)

def blocks (blockSize lengthWidth : Nat) (message : Bytes) : List Bytes :=
  let closed := close blockSize lengthWidth message
  parts blockSize (closed.length / blockSize) closed

/-- The big endian words of a block. -/
def words (wordBits count : Nat) (block : Bytes) : List (BitVec wordBits) :=
  (parts (wordBits / 8) count block).map fun bytes => BitVec.ofNat wordBits (BigEndian.decode bytes)

end Padding

end HostAttestation
