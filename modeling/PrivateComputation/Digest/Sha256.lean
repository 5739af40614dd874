import PrivateComputation.Text.Hex

/-!
SHA-256. A message is a list of bytes, the state eight words, and every block of 64 bytes updates
the state.
-/

namespace PrivateComputation.Sha256

structure State where
  a : UInt32
  b : UInt32
  c : UInt32
  d : UInt32
  e : UInt32
  f : UInt32
  g : UInt32
  h : UInt32
  deriving DecidableEq

/-- The fractional parts of the square roots of the first eight primes. -/
def initial : State :=
  ⟨0x6a09e667, 0xbb67ae85, 0x3c6ef372, 0xa54ff53a, 0x510e527f, 0x9b05688c, 0x1f83d9ab, 0x5be0cd19⟩

/-- The fractional parts of the cube roots of the first 64 primes. -/
def roundConstants : List UInt32 :=
  [0x428a2f98, 0x71374491, 0xb5c0fbcf, 0xe9b5dba5, 0x3956c25b, 0x59f111f1, 0x923f82a4, 0xab1c5ed5,
    0xd807aa98, 0x12835b01, 0x243185be, 0x550c7dc3, 0x72be5d74, 0x80deb1fe, 0x9bdc06a7, 0xc19bf174,
    0xe49b69c1, 0xefbe4786, 0x0fc19dc6, 0x240ca1cc, 0x2de92c6f, 0x4a7484aa, 0x5cb0a9dc, 0x76f988da,
    0x983e5152, 0xa831c66d, 0xb00327c8, 0xbf597fc7, 0xc6e00bf3, 0xd5a79147, 0x06ca6351, 0x14292967,
    0x27b70a85, 0x2e1b2138, 0x4d2c6dfc, 0x53380d13, 0x650a7354, 0x766a0abb, 0x81c2c92e, 0x92722c85,
    0xa2bfe8a1, 0xa81a664b, 0xc24b8b70, 0xc76c51a3, 0xd192e819, 0xd6990624, 0xf40e3585, 0x106aa070,
    0x19a4c116, 0x1e376c08, 0x2748774c, 0x34b0bcb5, 0x391c0cb3, 0x4ed8aa4a, 0x5b9cca4f, 0x682e6ff3,
    0x748f82ee, 0x78a5636f, 0x84c87814, 0x8cc70208, 0x90befffa, 0xa4506ceb, 0xbef9a3f7, 0xc67178f2]

def rotateRight (word amount : UInt32) : UInt32 :=
  (word >>> amount) ||| (word <<< (32 - amount))

def words : List UInt8 → List UInt32
  | first :: second :: third :: fourth :: rest =>
      ((first.toUInt32 <<< 24) ||| (second.toUInt32 <<< 16) ||| (third.toUInt32 <<< 8) |||
        fourth.toUInt32) :: words rest
  | _ => []

def nextWord : List UInt32 → UInt32
  | [w0, w1, _, _, _, _, _, _, _, w9, _, _, _, _, w14, _] =>
      let early := rotateRight w1 7 ^^^ rotateRight w1 18 ^^^ (w1 >>> 3)
      let late := rotateRight w14 17 ^^^ rotateRight w14 19 ^^^ (w14 >>> 10)
      w0 + early + w9 + late
  | _ => 0

def round (state : State) (constant word : UInt32) : State :=
  let mixedE := rotateRight state.e 6 ^^^ rotateRight state.e 11 ^^^ rotateRight state.e 25
  let choice := (state.e &&& state.f) ^^^ ((~~~ state.e) &&& state.g)
  let first := state.h + mixedE + choice + constant + word
  let mixedA := rotateRight state.a 2 ^^^ rotateRight state.a 13 ^^^ rotateRight state.a 22
  let majority := (state.a &&& state.b) ^^^ (state.a &&& state.c) ^^^ (state.b &&& state.c)
  ⟨first + (mixedA + majority), state.a, state.b, state.c, state.d + first, state.e, state.f,
    state.g⟩

/-- The rounds of a block. The window holds the next sixteen words of the schedule. -/
def rounds : List UInt32 → List UInt32 → State → State
  | [], _, state => state
  | constant :: constants, window, state =>
      rounds constants (window.drop 1 ++ [nextWord window])
        (round state constant (window.head?.getD 0))

def absorb (state : State) (block : List UInt8) : State :=
  let mixed := rounds roundConstants (words block) state
  ⟨state.a + mixed.a, state.b + mixed.b, state.c + mixed.c, state.d + mixed.d, state.e + mixed.e,
    state.f + mixed.f, state.g + mixed.g, state.h + mixed.h⟩

def wordBytes (word : UInt32) : List UInt8 :=
  [(word >>> 24).toUInt8, (word >>> 16).toUInt8, (word >>> 8).toUInt8, word.toUInt8]

/-- What follows a message of some number of bytes: a one bit, zeros, and the length in bits. -/
def padding (length : Nat) : List UInt8 :=
  let bits := 8 * length
  0x80 :: List.replicate ((119 - length % 64) % 64) 0 ++
    wordBytes (UInt32.ofNat (bits / UInt32.size)) ++ wordBytes (UInt32.ofNat bits)

def absorbAll : Nat → State → List UInt8 → State
  | 0, state, _ => state
  | count + 1, state, bytes => absorbAll count (absorb state (bytes.take 64)) (bytes.drop 64)

def digest (message : List UInt8) : List UInt8 :=
  let padded := message ++ padding message.length
  let state := absorbAll (padded.length / 64) initial padded
  [state.a, state.b, state.c, state.d, state.e, state.f, state.g, state.h].flatMap wordBytes

def hexDigest (message : List UInt8) : String :=
  String.ofList (hexEncode (digest message))

end PrivateComputation.Sha256
