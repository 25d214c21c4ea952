import HostAttestation.Digest.Padding

/-! # SHA-2

One compression function over words of 32 or 64 bits. A variant gives the round constants, the
starting state and the rotations. The constants are the first bits of the fractional parts of
the cube roots of the first primes, those of the starting state of square roots of primes, so
the narrow ones are the upper halves of the wide ones. Main statements: the width of a digest is
that of its variant. -/

namespace HostAttestation

namespace Sha2

structure State (bits : Nat) where
  a : BitVec bits
  b : BitVec bits
  c : BitVec bits
  d : BitVec bits
  e : BitVec bits
  f : BitVec bits
  g : BitVec bits
  h : BitVec bits

def State.words (state : State bits) : List (BitVec bits) :=
  [state.a, state.b, state.c, state.d, state.e, state.f, state.g, state.h]

/-- Three rotations to the right, the results added without carry. -/
structure Rotations where
  first : Nat
  second : Nat
  third : Nat

def Rotations.apply (rotations : Rotations) (word : BitVec bits) : BitVec bits :=
  word.rotateRight rotations.first ^^^ word.rotateRight rotations.second ^^^
    word.rotateRight rotations.third

/-- Two rotations and a shift to the right, the results added without carry. -/
structure Diffusion where
  first : Nat
  second : Nat
  shift : Nat

def Diffusion.apply (diffusion : Diffusion) (word : BitVec bits) : BitVec bits :=
  word.rotateRight diffusion.first ^^^ word.rotateRight diffusion.second ^^^
    word >>> diffusion.shift

structure Variant (bits : Nat) where
  constants : List (BitVec bits)
  start : State bits
  mixA : Rotations
  mixE : Rotations
  older : Diffusion
  newer : Diffusion

/-- Adds `count` words to a schedule whose newest word comes first. -/
def Variant.extend (variant : Variant bits) :
    (count : Nat) → List (BitVec bits) → List (BitVec bits)
  | 0, schedule => schedule
  | count + 1, schedule =>
      let word := variant.newer.apply (schedule.getD 1 0) + schedule.getD 6 0 +
        variant.older.apply (schedule.getD 14 0) + schedule.getD 15 0
      variant.extend count (word :: schedule)

def Variant.schedule (variant : Variant bits) (block : Bytes) : List (BitVec bits) :=
  (variant.extend (variant.constants.length - 16) (Padding.words bits 16 block).reverse).reverse

def Variant.step (variant : Variant bits) (state : State bits)
    (round : BitVec bits × BitVec bits) : State bits :=
  let choice := (state.e &&& state.f) ^^^ (~~~state.e &&& state.g)
  let majority := (state.a &&& state.b) ^^^ (state.a &&& state.c) ^^^ (state.b &&& state.c)
  let first := state.h + variant.mixE.apply state.e + choice + round.1 + round.2
  { a := first + variant.mixA.apply state.a + majority
    b := state.a
    c := state.b
    d := state.c
    e := state.d + first
    f := state.e
    g := state.f
    h := state.g }

def Variant.compress (variant : Variant bits) (state : State bits) (block : Bytes) : State bits :=
  let final := (variant.constants.zip (variant.schedule block)).foldl variant.step state
  { a := state.a + final.a
    b := state.b + final.b
    c := state.c + final.c
    d := state.d + final.d
    e := state.e + final.e
    f := state.f + final.f
    g := state.g + final.g
    h := state.h + final.h }

/-- The eight words of the final state. -/
def Variant.digest (variant : Variant bits) (message : Bytes) : Bytes :=
  let final := (Padding.blocks (2 * bits) (bits / 4) message).foldl variant.compress variant.start
  final.words.flatMap fun word => BigEndian.encode (bits / 8) word.toNat

def wideConstants : List (BitVec 64) := [
  0x428a2f98d728ae22, 0x7137449123ef65cd, 0xb5c0fbcfec4d3b2f,
  0xe9b5dba58189dbbc, 0x3956c25bf348b538, 0x59f111f1b605d019,
  0x923f82a4af194f9b, 0xab1c5ed5da6d8118, 0xd807aa98a3030242,
  0x12835b0145706fbe, 0x243185be4ee4b28c, 0x550c7dc3d5ffb4e2,
  0x72be5d74f27b896f, 0x80deb1fe3b1696b1, 0x9bdc06a725c71235,
  0xc19bf174cf692694, 0xe49b69c19ef14ad2, 0xefbe4786384f25e3,
  0x0fc19dc68b8cd5b5, 0x240ca1cc77ac9c65, 0x2de92c6f592b0275,
  0x4a7484aa6ea6e483, 0x5cb0a9dcbd41fbd4, 0x76f988da831153b5,
  0x983e5152ee66dfab, 0xa831c66d2db43210, 0xb00327c898fb213f,
  0xbf597fc7beef0ee4, 0xc6e00bf33da88fc2, 0xd5a79147930aa725,
  0x06ca6351e003826f, 0x142929670a0e6e70, 0x27b70a8546d22ffc,
  0x2e1b21385c26c926, 0x4d2c6dfc5ac42aed, 0x53380d139d95b3df,
  0x650a73548baf63de, 0x766a0abb3c77b2a8, 0x81c2c92e47edaee6,
  0x92722c851482353b, 0xa2bfe8a14cf10364, 0xa81a664bbc423001,
  0xc24b8b70d0f89791, 0xc76c51a30654be30, 0xd192e819d6ef5218,
  0xd69906245565a910, 0xf40e35855771202a, 0x106aa07032bbd1b8,
  0x19a4c116b8d2d0c8, 0x1e376c085141ab53, 0x2748774cdf8eeb99,
  0x34b0bcb5e19b48a8, 0x391c0cb3c5c95a63, 0x4ed8aa4ae3418acb,
  0x5b9cca4f7763e373, 0x682e6ff3d6b2b8a3, 0x748f82ee5defb2fc,
  0x78a5636f43172f60, 0x84c87814a1f0ab72, 0x8cc702081a6439ec,
  0x90befffa23631e28, 0xa4506cebde82bde9, 0xbef9a3f7b2c67915,
  0xc67178f2e372532b, 0xca273eceea26619c, 0xd186b8c721c0c207,
  0xeada7dd6cde0eb1e, 0xf57d4f7fee6ed178, 0x06f067aa72176fba,
  0x0a637dc5a2c898a6, 0x113f9804bef90dae, 0x1b710b35131c471b,
  0x28db77f523047d84, 0x32caab7b40c72493, 0x3c9ebe0a15c9bebc,
  0x431d67c49c100d4c, 0x4cc5d4becb3e42b6, 0x597f299cfc657e2a,
  0x5fcb6fab3ad6faec, 0x6c44198c4a475817]

def wideStart : State 64 where
  a := 0x6a09e667f3bcc908
  b := 0xbb67ae8584caa73b
  c := 0x3c6ef372fe94f82b
  d := 0xa54ff53a5f1d36f1
  e := 0x510e527fade682d1
  f := 0x9b05688c2b3e6c1f
  g := 0x1f83d9abfb41bd6b
  h := 0x5be0cd19137e2179

def middleStart : State 64 where
  a := 0xcbbb9d5dc1059ed8
  b := 0x629a292a367cd507
  c := 0x9159015a3070dd17
  d := 0x152fecd8f70e5939
  e := 0x67332667ffc00b31
  f := 0x8eb44a8768581511
  g := 0xdb0c2e0d64f98fa7
  h := 0x47b5481dbefa4fa4

/-- The upper half of a wide word. -/
def narrow (word : BitVec 64) : BitVec 32 :=
  (word >>> 32).setWidth 32

def narrowState (state : State 64) : State 32 where
  a := narrow state.a
  b := narrow state.b
  c := narrow state.c
  d := narrow state.d
  e := narrow state.e
  f := narrow state.f
  g := narrow state.g
  h := narrow state.h

def sha256 : Variant 32 where
  constants := (wideConstants.take 64).map narrow
  start := narrowState wideStart
  mixA := ⟨2, 13, 22⟩
  mixE := ⟨6, 11, 25⟩
  older := ⟨7, 18, 3⟩
  newer := ⟨17, 19, 10⟩

def sha512 : Variant 64 where
  constants := wideConstants
  start := wideStart
  mixA := ⟨28, 34, 39⟩
  mixE := ⟨14, 18, 41⟩
  older := ⟨1, 8, 7⟩
  newer := ⟨19, 61, 6⟩

def sha384 : Variant 64 :=
  { sha512 with start := middleStart }

theorem length_digest (variant : Variant bits) (message : Bytes) :
    (variant.digest message).length = 8 * (bits / 8) := by
  simp [Variant.digest, State.words]
  omega

end Sha2

end HostAttestation
