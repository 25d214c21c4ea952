import HostAttestation.Digest.Sha1
import HostAttestation.Digest.Sha2

/-! # Hash algorithms

The algorithms a register bank can be expressed in. Main statement: a digest has the width of its
algorithm, which also tells the algorithms apart. -/

namespace HostAttestation

inductive HashAlgorithm
  | sha1
  | sha256
  | sha384
  | sha512
  deriving DecidableEq, Repr

namespace HashAlgorithm

def all : List HashAlgorithm :=
  [sha1, sha256, sha384, sha512]

/-- The width of a digest in bytes. -/
def digestLength : HashAlgorithm → Nat
  | sha1 => 20
  | sha256 => 32
  | sha384 => 48
  | sha512 => 64

def digest : HashAlgorithm → Bytes → Bytes
  | sha1, message => Sha1.digest message
  | sha256, message => Sha2.sha256.digest message
  | sha384, message => (Sha2.sha384.digest message).take 48
  | sha512, message => Sha2.sha512.digest message

/-- What a register holds after a measurement is extended into it: the digest of the old value
followed by the measurement. -/
def extend (algorithm : HashAlgorithm) (current measurement : Bytes) : Bytes :=
  algorithm.digest (current ++ measurement)

/-- The algorithm whose digests have a given width. -/
def ofDigestLength? (length : Nat) : Option HashAlgorithm :=
  all.find? fun algorithm => algorithm.digestLength == length

def name : HashAlgorithm → String
  | sha1 => "Sha1"
  | sha256 => "Sha256"
  | sha384 => "Sha384"
  | sha512 => "Sha512"

/-- The spelling in documents. -/
def identifier : HashAlgorithm → String
  | sha1 => "sha1"
  | sha256 => "sha256"
  | sha384 => "sha384"
  | sha512 => "sha512"

/-- Hyphens and underscores are left out and capitals made small. No letter outside ASCII has a
lower case form among the letters of a name, so ASCII capitals are enough. -/
def normalized (text : String) : String :=
  String.ofList ((text.toList.filter fun c => c != '-' && c != '_').map Char.toLower)

def ofIdentifier? (text : String) : Option HashAlgorithm :=
  all.find? fun algorithm => algorithm.identifier == text

def parse? (text : String) : Option HashAlgorithm :=
  ofIdentifier? (normalized text)

@[simp]
theorem length_digest (algorithm : HashAlgorithm) (message : Bytes) :
    (algorithm.digest message).length = algorithm.digestLength := by
  cases algorithm <;> simp [digest, digestLength, Sha2.length_digest]

@[simp]
theorem length_extend (algorithm : HashAlgorithm) (current measurement : Bytes) :
    (algorithm.extend current measurement).length = algorithm.digestLength :=
  length_digest _ _

theorem ofDigestLength?_eq_some_iff (length : Nat) (algorithm : HashAlgorithm) :
    ofDigestLength? length = some algorithm ↔ algorithm.digestLength = length := by
  constructor
  · intro found
    unfold ofDigestLength? at found
    simpa using List.find?_some found
  · intro equal
    subst length
    cases algorithm <;> rfl

end HashAlgorithm

end HostAttestation
