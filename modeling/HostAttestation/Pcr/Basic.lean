import HostAttestation.Digest.Algorithm

/-! # Platform configuration registers

A register is named by its index and its bank, the hash algorithm that its value is expressed
in. Registers are ordered bank by bank and by ascending index within a bank. Main statement: the
position in this order tells registers apart. -/

namespace HostAttestation

/-- Number of registers of a bank. -/
def pcrCount : Nat := 24

structure PcrIndex where
  value : Nat
  below : value < pcrCount
  deriving DecidableEq, Repr

abbrev PcrBank := HashAlgorithm

structure PcrId where
  index : PcrIndex
  bank : PcrBank
  deriving DecidableEq, Repr

def PcrIndex.name (index : PcrIndex) : String :=
  "pcr_" ++ toString index.value

/-- The name of an algorithm as a bank. -/
def HashAlgorithm.bankName : HashAlgorithm → String
  | .sha1 => "SHA1"
  | .sha256 => "SHA256"
  | .sha384 => "SHA384"
  | .sha512 => "SHA512"

/-- The place of a bank among the banks. -/
def HashAlgorithm.rank : HashAlgorithm → Nat
  | .sha1 => 0
  | .sha256 => 1
  | .sha384 => 2
  | .sha512 => 3

/-- What a register of a bank holds after a reset. -/
def HashAlgorithm.zeroDigest (bank : PcrBank) : Bytes :=
  List.replicate bank.digestLength 0

@[simp]
theorem HashAlgorithm.length_zeroDigest (bank : PcrBank) :
    bank.zeroDigest.length = bank.digestLength := by
  simp [zeroDigest]

namespace PcrId

def name (pcr : PcrId) : String :=
  pcr.index.name ++ "/" ++ pcr.bank.bankName

def position (pcr : PcrId) : Nat :=
  pcr.bank.rank * pcrCount + pcr.index.value

theorem position_injective {left right : PcrId} (equal : left.position = right.position) :
    left = right := by
  rcases left with ⟨⟨leftIndex, leftBelow⟩, leftBank⟩
  rcases right with ⟨⟨rightIndex, rightBelow⟩, rightBank⟩
  simp only [position, pcrCount] at equal leftBelow rightBelow
  have bounds : leftBank.rank = rightBank.rank ∧ leftIndex = rightIndex := by omega
  rcases bounds with ⟨ranks, rfl⟩
  cases leftBank <;> cases rightBank <;> simp_all [HashAlgorithm.rank]

end PcrId

end HostAttestation
