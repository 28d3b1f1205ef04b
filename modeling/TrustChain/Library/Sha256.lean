import Mathlib

/-!
# SHA-256

The hash function of FIPS 180-4 on byte strings, executable, so that its values on concrete
inputs can be computed. Of its outputs only the length is proved: nothing else about them is
known, and collision freeness is assumed where it is needed, of the inputs it is needed for.
-/

namespace TrustChain.Library

namespace Sha256

abbrev Word := BitVec 32

/-- The first 32 bits of the fractional parts of the cube roots of the first 64 primes. -/
def roundConstants : List Word :=
  [0x428a2f98, 0x71374491, 0xb5c0fbcf, 0xe9b5dba5, 0x3956c25b, 0x59f111f1, 0x923f82a4, 0xab1c5ed5,
    0xd807aa98, 0x12835b01, 0x243185be, 0x550c7dc3, 0x72be5d74, 0x80deb1fe, 0x9bdc06a7, 0xc19bf174,
    0xe49b69c1, 0xefbe4786, 0x0fc19dc6, 0x240ca1cc, 0x2de92c6f, 0x4a7484aa, 0x5cb0a9dc, 0x76f988da,
    0x983e5152, 0xa831c66d, 0xb00327c8, 0xbf597fc7, 0xc6e00bf3, 0xd5a79147, 0x06ca6351, 0x14292967,
    0x27b70a85, 0x2e1b2138, 0x4d2c6dfc, 0x53380d13, 0x650a7354, 0x766a0abb, 0x81c2c92e, 0x92722c85,
    0xa2bfe8a1, 0xa81a664b, 0xc24b8b70, 0xc76c51a3, 0xd192e819, 0xd6990624, 0xf40e3585, 0x106aa070,
    0x19a4c116, 0x1e376c08, 0x2748774c, 0x34b0bcb5, 0x391c0cb3, 0x4ed8aa4a, 0x5b9cca4f, 0x682e6ff3,
    0x748f82ee, 0x78a5636f, 0x84c87814, 0x8cc70208, 0x90befffa, 0xa4506ceb, 0xbef9a3f7, 0xc67178f2]

/-- The eight working variables. -/
structure State where
  (a b c d e f g h : Word)

/-- The first 32 bits of the fractional parts of the square roots of the first eight primes. -/
def initial : State where
  a := 0x6a09e667
  b := 0xbb67ae85
  c := 0x3c6ef372
  d := 0xa54ff53a
  e := 0x510e527f
  f := 0x9b05688c
  g := 0x1f83d9ab
  h := 0x5be0cd19

def State.add (left right : State) : State where
  a := left.a + right.a
  b := left.b + right.b
  c := left.c + right.c
  d := left.d + right.d
  e := left.e + right.e
  f := left.f + right.f
  g := left.g + right.g
  h := left.h + right.h

def choose (x y z : Word) : Word := (x &&& y) ^^^ (~~~x &&& z)

def majority (x y z : Word) : Word := (x &&& y) ^^^ (x &&& z) ^^^ (y &&& z)

def largeSigma0 (x : Word) : Word := x.rotateRight 2 ^^^ x.rotateRight 13 ^^^ x.rotateRight 22

def largeSigma1 (x : Word) : Word := x.rotateRight 6 ^^^ x.rotateRight 11 ^^^ x.rotateRight 25

def smallSigma0 (x : Word) : Word := x.rotateRight 7 ^^^ x.rotateRight 18 ^^^ x >>> 3

def smallSigma1 (x : Word) : Word := x.rotateRight 17 ^^^ x.rotateRight 19 ^^^ x >>> 10

/-- One round, with its constant and its word of the schedule. -/
def round (state : State) (input : Word × Word) : State :=
  let first := state.h + largeSigma1 state.e + choose state.e state.f state.g + input.1 + input.2
  let second := largeSigma0 state.a + majority state.a state.b state.c
  { a := first + second
    b := state.a
    c := state.b
    d := state.c
    e := state.d + first
    f := state.e
    g := state.f
    h := state.g }

/-- The words of a block, big endian. -/
def words : List UInt8 → List Word
  | first :: second :: third :: fourth :: rest =>
      (first.toBitVec ++ second.toBitVec ++ third.toBitVec ++ fourth.toBitVec) :: words rest
  | _ => []

/-- Lengthen the message schedule, its newest word first. -/
def extend : Nat → List Word → List Word
  | 0, schedule => schedule
  | count + 1, schedule =>
      extend count
        ((smallSigma1 (schedule.getD 1 0) + schedule.getD 6 0 + smallSigma0 (schedule.getD 14 0) +
          schedule.getD 15 0) :: schedule)

def compress (state : State) (block : List UInt8) : State :=
  state.add ((roundConstants.zip (extend 48 (words block).reverse).reverse).foldl round state)

/-- The bytes of a word of eight times `count` bits, big endian. -/
def bigEndian : Nat → Nat → List UInt8
  | 0, _ => []
  | count + 1, value => UInt8.ofNat (value / 256 ^ count) :: bigEndian count value

/-- A one bit, zeros up to eight bytes short of a block, and the length in bits. -/
def pad (message : List UInt8) : List UInt8 :=
  message ++ 0x80 :: List.replicate ((119 - message.length % 64) % 64) 0 ++
    bigEndian 8 (8 * message.length)

/-- The first `count` blocks. -/
def blocks : Nat → List UInt8 → List (List UInt8)
  | 0, _ => []
  | count + 1, bytes => bytes.take 64 :: blocks count (bytes.drop 64)

def State.digest (state : State) : List UInt8 :=
  [state.a, state.b, state.c, state.d, state.e, state.f, state.g, state.h].flatMap fun word =>
    bigEndian 4 word.toNat

@[simp] theorem bigEndian_length (count value : Nat) : (bigEndian count value).length = count := by
  induction count with
  | zero => rfl
  | succ count ih => simp [bigEndian, ih]

end Sha256

def sha256 (message : List UInt8) : List UInt8 :=
  let padded := Sha256.pad message
  ((Sha256.blocks (padded.length / 64) padded).foldl Sha256.compress Sha256.initial).digest

@[simp] theorem sha256_length (message : List UInt8) : (sha256 message).length = 32 := by
  simp [sha256, Sha256.State.digest]

/-- The digest of the three bytes `abc`. -/
example : sha256 [0x61, 0x62, 0x63] =
    [0xba, 0x78, 0x16, 0xbf, 0x8f, 0x01, 0xcf, 0xea, 0x41, 0x41, 0x40, 0xde, 0x5d, 0xae, 0x22, 0x23,
      0xb0, 0x03, 0x61, 0xa3, 0x96, 0x17, 0x7a, 0x9c, 0xb4, 0x10, 0xff, 0x61, 0xf2, 0x00, 0x15,
      0xad] := by
  decide +kernel

end TrustChain.Library
