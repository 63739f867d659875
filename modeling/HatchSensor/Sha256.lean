import HatchSensor.Bytes

/-!
# The digest of a message

The 256-bit secure hash of a byte string.  The message is padded to whole blocks of sixteen words,
and every block is mixed into eight words of state by sixty-four rounds.  The words that a round
needs beyond the first sixteen are made of the last sixteen.
-/

namespace HatchSensor

namespace Sha256

/-- The eight words of state. -/
structure State where
  /-- The first word. -/
  a : UInt32
  /-- The second word. -/
  b : UInt32
  /-- The third word. -/
  c : UInt32
  /-- The fourth word. -/
  d : UInt32
  /-- The fifth word. -/
  e : UInt32
  /-- The sixth word. -/
  f : UInt32
  /-- The seventh word. -/
  g : UInt32
  /-- The eighth word. -/
  h : UInt32

/-- The state before the first block. -/
def initial : State :=
  ⟨0x6a09e667, 0xbb67ae85, 0x3c6ef372, 0xa54ff53a, 0x510e527f, 0x9b05688c, 0x1f83d9ab, 0x5be0cd19⟩

/-- The constants of the rounds. -/
def constants : List UInt32 :=
  [0x428a2f98, 0x71374491, 0xb5c0fbcf, 0xe9b5dba5, 0x3956c25b, 0x59f111f1, 0x923f82a4, 0xab1c5ed5,
    0xd807aa98, 0x12835b01, 0x243185be, 0x550c7dc3, 0x72be5d74, 0x80deb1fe, 0x9bdc06a7, 0xc19bf174,
    0xe49b69c1, 0xefbe4786, 0x0fc19dc6, 0x240ca1cc, 0x2de92c6f, 0x4a7484aa, 0x5cb0a9dc, 0x76f988da,
    0x983e5152, 0xa831c66d, 0xb00327c8, 0xbf597fc7, 0xc6e00bf3, 0xd5a79147, 0x06ca6351, 0x14292967,
    0x27b70a85, 0x2e1b2138, 0x4d2c6dfc, 0x53380d13, 0x650a7354, 0x766a0abb, 0x81c2c92e, 0x92722c85,
    0xa2bfe8a1, 0xa81a664b, 0xc24b8b70, 0xc76c51a3, 0xd192e819, 0xd6990624, 0xf40e3585, 0x106aa070,
    0x19a4c116, 0x1e376c08, 0x2748774c, 0x34b0bcb5, 0x391c0cb3, 0x4ed8aa4a, 0x5b9cca4f, 0x682e6ff3,
    0x748f82ee, 0x78a5636f, 0x84c87814, 0x8cc70208, 0x90befffa, 0xa4506ceb, 0xbef9a3f7, 0xc67178f2]

/-- Turn a word to the right. -/
def turn (x n : UInt32) : UInt32 :=
  (x >>> n) ||| (x <<< (32 - n))

/-- One round with a constant and a word of the message. -/
def mix (s : State) (constant word : UInt32) : State :=
  let choice := (s.e &&& s.f) ^^^ (~~~s.e &&& s.g)
  let majority := (s.a &&& s.b) ^^^ (s.a &&& s.c) ^^^ (s.b &&& s.c)
  let first := s.h + (turn s.e 6 ^^^ turn s.e 11 ^^^ turn s.e 25) + choice + constant + word
  let second := (turn s.a 2 ^^^ turn s.a 13 ^^^ turn s.a 22) + majority
  ⟨first + second, s.a, s.b, s.c, s.d + first, s.e, s.f, s.g⟩

/-- The word that follows sixteen words. -/
def following (words : List UInt32) : UInt32 :=
  let early := words.getD 1 0
  let late := words.getD 14 0
  words.getD 0 0 + (turn early 7 ^^^ turn early 18 ^^^ (early >>> 3)) + words.getD 9 0
    + (turn late 17 ^^^ turn late 19 ^^^ (late >>> 10))

/-- The rounds with the given constants, the next sixteen words being at hand. -/
def rounds : List UInt32 → List UInt32 → State → State
  | [], _, s => s
  | constant :: rest, words, s =>
    rounds rest (words.drop 1 ++ [following words]) (mix s constant (words.getD 0 0))

/-- Add two states word by word. -/
def add (s t : State) : State :=
  ⟨s.a + t.a, s.b + t.b, s.c + t.c, s.d + t.d, s.e + t.e, s.f + t.f, s.g + t.g, s.h + t.h⟩

/-- Words of four bytes, the first byte being the highest. -/
def words : Bytes → List UInt32
  | b₃ :: b₂ :: b₁ :: b₀ :: rest => Bytes.toWord b₀ b₁ b₂ b₃ :: words rest
  | _ => []

/-- Mix the given number of blocks into a state. -/
def absorb : Nat → List UInt32 → State → State
  | 0, _, s => s
  | blocks + 1, message, s =>
    absorb blocks (message.drop 16) (add s (rounds constants (message.take 16) s))

/-- The bytes of a number, the highest first. -/
def bigEndian : Nat → Nat → Bytes
  | 0, _ => []
  | count + 1, n => UInt8.ofNat (n / Nat.pow 256 count) :: bigEndian count n

/-- A message with a mark, as many zeros as fill the last block, and its length in bits. -/
def pad (message : Bytes) : Bytes :=
  let zeros := 63 - (message.length + 8) % 64
  message ++ 0x80 :: List.replicate zeros 0 ++ bigEndian 8 (message.length * 8)

def toBytes (s : State) : Bytes :=
  [s.a, s.b, s.c, s.d, s.e, s.f, s.g, s.h].flatMap fun w => (Bytes.ofWord w).reverse

def digest (message : Bytes) : Bytes :=
  let padded := pad message
  toBytes (absorb (padded.length / 64) (words padded) initial)

end Sha256

end HatchSensor
