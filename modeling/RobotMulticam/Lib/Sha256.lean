import Mathlib

/-!
# HMAC with SHA-256

The hash and the message authentication code as functions on bytes, so that a
signature can be evaluated. Nothing is assumed or proved about collisions.
-/

namespace RobotMulticam.Lib.Sha256

/-- The eight working variables. -/
structure State where
  a : UInt32
  b : UInt32
  c : UInt32
  d : UInt32
  e : UInt32
  f : UInt32
  g : UInt32
  h : UInt32

def initial : State where
  a := 0x6a09e667
  b := 0xbb67ae85
  c := 0x3c6ef372
  d := 0xa54ff53a
  e := 0x510e527f
  f := 0x9b05688c
  g := 0x1f83d9ab
  h := 0x5be0cd19

def roundConstants : List UInt32 :=
  [0x428a2f98, 0x71374491, 0xb5c0fbcf, 0xe9b5dba5, 0x3956c25b, 0x59f111f1, 0x923f82a4, 0xab1c5ed5,
    0xd807aa98, 0x12835b01, 0x243185be, 0x550c7dc3, 0x72be5d74, 0x80deb1fe, 0x9bdc06a7, 0xc19bf174,
    0xe49b69c1, 0xefbe4786, 0x0fc19dc6, 0x240ca1cc, 0x2de92c6f, 0x4a7484aa, 0x5cb0a9dc, 0x76f988da,
    0x983e5152, 0xa831c66d, 0xb00327c8, 0xbf597fc7, 0xc6e00bf3, 0xd5a79147, 0x06ca6351, 0x14292967,
    0x27b70a85, 0x2e1b2138, 0x4d2c6dfc, 0x53380d13, 0x650a7354, 0x766a0abb, 0x81c2c92e, 0x92722c85,
    0xa2bfe8a1, 0xa81a664b, 0xc24b8b70, 0xc76c51a3, 0xd192e819, 0xd6990624, 0xf40e3585, 0x106aa070,
    0x19a4c116, 0x1e376c08, 0x2748774c, 0x34b0bcb5, 0x391c0cb3, 0x4ed8aa4a, 0x5b9cca4f, 0x682e6ff3,
    0x748f82ee, 0x78a5636f, 0x84c87814, 0x8cc70208, 0x90befffa, 0xa4506ceb, 0xbef9a3f7, 0xc67178f2]

def rotateRight (word count : UInt32) : UInt32 := (word >>> count) ||| (word <<< (32 - count))

/-- The message schedule goes on from its last sixteen words, oldest first. -/
def nextWord (window : List UInt32) : UInt32 :=
  let second := window.getD 1 0
  let fifteenth := window.getD 14 0
  window.getD 0 0 + (rotateRight second 7 ^^^ rotateRight second 18 ^^^ (second >>> 3)) +
    window.getD 9 0 + (rotateRight fifteenth 17 ^^^ rotateRight fifteenth 19 ^^^ (fifteenth >>> 10))

def round (state : State) (constant word : UInt32) : State :=
  let choice := (state.e &&& state.f) ^^^ (~~~ state.e &&& state.g)
  let majority := (state.a &&& state.b) ^^^ (state.a &&& state.c) ^^^ (state.b &&& state.c)
  let first := state.h +
    (rotateRight state.e 6 ^^^ rotateRight state.e 11 ^^^ rotateRight state.e 25) + choice +
    constant + word
  let second :=
    (rotateRight state.a 2 ^^^ rotateRight state.a 13 ^^^ rotateRight state.a 22) + majority
  ⟨first + second, state.a, state.b, state.c, state.d + first, state.e, state.f, state.g⟩

/-- One round for each constant, the window moving on by a word each time. -/
def rounds : List UInt32 → List UInt32 → State → State
  | [], _, state => state
  | constant :: constants, window, state =>
    rounds constants (window.tail ++ [nextWord window])
      (round state constant (window.headD 0))

/-- The number as big-endian bytes. -/
def bigEndian (count number : Nat) : List UInt8 :=
  (List.range count).map fun index => UInt8.ofNat (number / 256 ^ (count - 1 - index))

/-- The first `count` words of the bytes. -/
def words : Nat → List UInt8 → List UInt32
  | 0, _ => []
  | count + 1, bytes =>
    UInt32.ofNat ((bytes.take 4).foldl (fun number byte => number * 256 + byte.toNat) 0) ::
      words count (bytes.drop 4)

def compress (state : State) (block : List UInt8) : State :=
  let mixed := rounds roundConstants (words 16 block) state
  ⟨state.a + mixed.a, state.b + mixed.b, state.c + mixed.c, state.d + mixed.d,
    state.e + mixed.e, state.f + mixed.f, state.g + mixed.g, state.h + mixed.h⟩

/-- The first `count` blocks of the bytes. -/
def compressBlocks : Nat → List UInt8 → State → State
  | 0, _, state => state
  | count + 1, bytes, state => compressBlocks count (bytes.drop 64) (compress state (bytes.take 64))

/-- A one bit, zeros, and the length in bits, up to a multiple of 64 bytes. -/
def padded (message : List UInt8) : List UInt8 :=
  message ++ 0x80 :: (List.replicate ((119 - message.length % 64) % 64) 0 ++
    bigEndian 8 (8 * message.length))

def State.bytes (state : State) : List UInt8 :=
  [state.a, state.b, state.c, state.d, state.e, state.f, state.g, state.h].flatMap fun word =>
    bigEndian 4 word.toNat

def sha256 (message : List UInt8) : List UInt8 :=
  (compressBlocks ((padded message).length / 64) (padded message) initial).bytes

/-- A key of more than a block is hashed first. -/
def hmac (key message : List UInt8) : List UInt8 :=
  let short := if 64 < key.length then sha256 key else key
  let block := short ++ List.replicate (64 - short.length) 0
  sha256 (block.map (· ^^^ 0x5c) ++ sha256 (block.map (· ^^^ 0x36) ++ message))

theorem length_sha256 (message : List UInt8) : (sha256 message).length = 32 := by
  simp [sha256, State.bytes, bigEndian]

/-- With the size of a digest. -/
def digest (message : List UInt8) : Vector UInt8 32 :=
  ⟨(sha256 message).toArray, length_sha256 message⟩

theorem length_hmac (key message : List UInt8) : (hmac key message).length = 32 :=
  length_sha256 _

end RobotMulticam.Lib.Sha256
