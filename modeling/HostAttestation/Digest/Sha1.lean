import HostAttestation.Digest.Padding

/-! # SHA-1

The message schedule is kept newest word first. Main statement: a digest has twenty bytes. -/

namespace HostAttestation

namespace Sha1

abbrev Word := BitVec 32

structure State where
  a : Word
  b : Word
  c : Word
  d : Word
  e : Word

def start : State :=
  ⟨0x67452301, 0xefcdab89, 0x98badcfe, 0x10325476, 0xc3d2e1f0⟩

/-- Adds `count` words to a schedule whose newest word comes first. -/
def extend : (count : Nat) → List Word → List Word
  | 0, schedule => schedule
  | count + 1, schedule =>
      let word := schedule.getD 2 0 ^^^ schedule.getD 7 0 ^^^ schedule.getD 13 0 ^^^
        schedule.getD 15 0
      extend count (word.rotateLeft 1 :: schedule)

def schedule (block : Bytes) : List Word :=
  (extend 64 (Padding.words 32 16 block).reverse).reverse

def mix (round : Nat) (b c d : Word) : Word :=
  if round < 20 then (b &&& c) ^^^ (~~~b &&& d)
  else if round < 40 then b ^^^ c ^^^ d
  else if round < 60 then (b &&& c) ^^^ (b &&& d) ^^^ (c &&& d)
  else b ^^^ c ^^^ d

def constant (round : Nat) : Word :=
  if round < 20 then 0x5a827999
  else if round < 40 then 0x6ed9eba1
  else if round < 60 then 0x8f1bbcdc
  else 0xca62c1d6

def step (state : State) (word : Word × Nat) : State where
  a := state.a.rotateLeft 5 + mix word.2 state.b state.c state.d + state.e + constant word.2 + word.1
  b := state.a
  c := state.b.rotateLeft 30
  d := state.c
  e := state.d

def compress (state : State) (block : Bytes) : State :=
  let final := (schedule block).zipIdx.foldl step state
  ⟨state.a + final.a, state.b + final.b, state.c + final.c, state.d + final.d, state.e + final.e⟩

def State.toBytes (state : State) : Bytes :=
  [state.a, state.b, state.c, state.d, state.e].flatMap fun word => BigEndian.encode 4 word.toNat

def digest (message : Bytes) : Bytes :=
  ((Padding.blocks 64 8 message).foldl compress start).toBytes

@[simp]
theorem length_digest (message : Bytes) : (digest message).length = 20 := by
  simp [digest, State.toBytes]

end Sha1

end HostAttestation
