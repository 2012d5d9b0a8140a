import SpinWait.Text.Numeral

namespace SpinWait.Sha256

/-! The SHA-256 digest: the padded message is cut into blocks of 64 bytes, each block is expanded to
64 words, and the words are mixed into a state of eight words. -/

/-- The eight words that the message is mixed into. -/
structure State where
  a : UInt32
  b : UInt32
  c : UInt32
  d : UInt32
  e : UInt32
  f : UInt32
  g : UInt32
  h : UInt32

namespace State

def initial : State :=
  ⟨0x6a09e667, 0xbb67ae85, 0x3c6ef372, 0xa54ff53a, 0x510e527f, 0x9b05688c, 0x1f83d9ab, 0x5be0cd19⟩

def words (state : State) : List UInt32 :=
  [state.a, state.b, state.c, state.d, state.e, state.f, state.g, state.h]

/-- Word by word, modulo 2^32. -/
def add (left right : State) : State :=
  ⟨left.a + right.a, left.b + right.b, left.c + right.c, left.d + right.d,
    left.e + right.e, left.f + right.f, left.g + right.g, left.h + right.h⟩

end State

def roundConstants : List UInt32 := [
  0x428a2f98, 0x71374491, 0xb5c0fbcf, 0xe9b5dba5, 0x3956c25b, 0x59f111f1, 0x923f82a4, 0xab1c5ed5,
  0xd807aa98, 0x12835b01, 0x243185be, 0x550c7dc3, 0x72be5d74, 0x80deb1fe, 0x9bdc06a7, 0xc19bf174,
  0xe49b69c1, 0xefbe4786, 0x0fc19dc6, 0x240ca1cc, 0x2de92c6f, 0x4a7484aa, 0x5cb0a9dc, 0x76f988da,
  0x983e5152, 0xa831c66d, 0xb00327c8, 0xbf597fc7, 0xc6e00bf3, 0xd5a79147, 0x06ca6351, 0x14292967,
  0x27b70a85, 0x2e1b2138, 0x4d2c6dfc, 0x53380d13, 0x650a7354, 0x766a0abb, 0x81c2c92e, 0x92722c85,
  0xa2bfe8a1, 0xa81a664b, 0xc24b8b70, 0xc76c51a3, 0xd192e819, 0xd6990624, 0xf40e3585, 0x106aa070,
  0x19a4c116, 0x1e376c08, 0x2748774c, 0x34b0bcb5, 0x391c0cb3, 0x4ed8aa4a, 0x5b9cca4f, 0x682e6ff3,
  0x748f82ee, 0x78a5636f, 0x84c87814, 0x8cc70208, 0x90befffa, 0xa4506ceb, 0xbef9a3f7, 0xc67178f2]

def rotateRight (word : UInt32) (count : UInt32) : UInt32 :=
  (word >>> count) ||| (word <<< (32 - count))

/-- `count` bytes, the highest first. -/
def bigEndian : Nat → Nat → List UInt8
  | 0, _ => []
  | count + 1, n => bigEndian count (n / 256) ++ [UInt8.ofNat n]

/-- The message, a bit that is set, zeros up to eight bytes short of a whole block, and the length
in bits. -/
def padded (message : List UInt8) : List UInt8 :=
  message ++ 0x80 :: (List.replicate ((119 - message.length % 64) % 64) 0 ++
    bigEndian 8 (message.length * 8))

def words : List UInt8 → List UInt32
  | a :: b :: c :: d :: rest =>
    (a.toUInt32 <<< 24 ||| b.toUInt32 <<< 16 ||| c.toUInt32 <<< 8 ||| d.toUInt32) :: words rest
  | _ => []

/-- Appends `count` words, each made of four words before it. -/
def schedule : Nat → Array UInt32 → Array UInt32
  | 0, known => known
  | count + 1, known =>
    let back (distance : Nat) : UInt32 := known.getD (known.size - distance) 0
    let small0 := rotateRight (back 15) 7 ^^^ rotateRight (back 15) 18 ^^^ back 15 >>> 3
    let small1 := rotateRight (back 2) 17 ^^^ rotateRight (back 2) 19 ^^^ back 2 >>> 10
    schedule count (known.push (back 16 + small0 + back 7 + small1))

/-- One round: the words move on by one place, and the first and the fifth are made anew. -/
def round (state : State) (constant word : UInt32) : State :=
  let big1 := rotateRight state.e 6 ^^^ rotateRight state.e 11 ^^^ rotateRight state.e 25
  let choice := (state.e &&& state.f) ^^^ (~~~state.e &&& state.g)
  let first := state.h + big1 + choice + constant + word
  let big0 := rotateRight state.a 2 ^^^ rotateRight state.a 13 ^^^ rotateRight state.a 22
  let majority := (state.a &&& state.b) ^^^ (state.a &&& state.c) ^^^ (state.b &&& state.c)
  ⟨first + (big0 + majority), state.a, state.b, state.c, state.d + first, state.e, state.f, state.g⟩

def compress (state : State) (block : List UInt32) : State :=
  let inputs := roundConstants.zip (schedule 48 block.toArray).toList
  state.add (inputs.foldl (fun mixed input => round mixed input.1 input.2) state)

/-- The first `count` blocks of sixteen words. -/
def blocks : Nat → List UInt32 → List (List UInt32)
  | 0, _ => []
  | count + 1, all => all.take 16 :: blocks count (all.drop 16)

def digestState (message : List UInt8) : State :=
  let all := words (padded message)
  (blocks (all.length / 16) all).foldl compress State.initial

/-- The digest as 64 hexadecimal digits. -/
def digest (message : List UInt8) : Text :=
  (digestState message).words.flatMap fun word => Numeral.fixedHex 8 word.toNat

end SpinWait.Sha256
