import PlugAndCharge.Octets

/-!
# SHA-256

The digest of FIPS 180-4: the padded message is cut into blocks of sixteen words, and each block is
folded into eight chaining words through sixty-four rounds.  `length_digest` says that a digest has
thirty-two octets.
-/

namespace PlugAndCharge
namespace Sha256

/-- The eight chaining words. -/
structure State where
  a : UInt32
  b : UInt32
  c : UInt32
  d : UInt32
  e : UInt32
  f : UInt32
  g : UInt32
  h : UInt32
  deriving DecidableEq, Repr

/-- The chaining words before the first block. -/
def initial : State where
  a := 0x6a09e667
  b := 0xbb67ae85
  c := 0x3c6ef372
  d := 0xa54ff53a
  e := 0x510e527f
  f := 0x9b05688c
  g := 0x1f83d9ab
  h := 0x5be0cd19

/-- The constants of the sixty-four rounds. -/
def roundConstants : List UInt32 :=
  [0x428a2f98, 0x71374491, 0xb5c0fbcf, 0xe9b5dba5, 0x3956c25b, 0x59f111f1, 0x923f82a4, 0xab1c5ed5,
   0xd807aa98, 0x12835b01, 0x243185be, 0x550c7dc3, 0x72be5d74, 0x80deb1fe, 0x9bdc06a7, 0xc19bf174,
   0xe49b69c1, 0xefbe4786, 0x0fc19dc6, 0x240ca1cc, 0x2de92c6f, 0x4a7484aa, 0x5cb0a9dc, 0x76f988da,
   0x983e5152, 0xa831c66d, 0xb00327c8, 0xbf597fc7, 0xc6e00bf3, 0xd5a79147, 0x06ca6351, 0x14292967,
   0x27b70a85, 0x2e1b2138, 0x4d2c6dfc, 0x53380d13, 0x650a7354, 0x766a0abb, 0x81c2c92e, 0x92722c85,
   0xa2bfe8a1, 0xa81a664b, 0xc24b8b70, 0xc76c51a3, 0xd192e819, 0xd6990624, 0xf40e3585, 0x106aa070,
   0x19a4c116, 0x1e376c08, 0x2748774c, 0x34b0bcb5, 0x391c0cb3, 0x4ed8aa4a, 0x5b9cca4f, 0x682e6ff3,
   0x748f82ee, 0x78a5636f, 0x84c87814, 0x8cc70208, 0x90befffa, 0xa4506ceb, 0xbef9a3f7, 0xc67178f2]

/-- Rotates a word to the right. -/
def rotateRight (word : UInt32) (amount : UInt32) : UInt32 :=
  word >>> amount ||| word <<< (32 - amount)

/-- The word that follows sixteen words of the schedule. -/
def nextWord : List UInt32 → UInt32
  | [w0, w1, _, _, _, _, _, _, _, w9, _, _, _, _, w14, _] =>
    let s0 := rotateRight w1 7 ^^^ rotateRight w1 18 ^^^ w1 >>> 3
    let s1 := rotateRight w14 17 ^^^ rotateRight w14 19 ^^^ w14 >>> 10
    w0 + s0 + w9 + s1
  | _ => 0

/-- The next `count` words of the schedule, of which `window` holds the first sixteen. -/
def schedule : (count : Nat) → (window : List UInt32) → List UInt32
  | 0, _ => []
  | _ + 1, [] => []
  | count + 1, word :: window =>
    word :: schedule count (window ++ [nextWord (word :: window)])

/-- One round. -/
def round (state : State) (input : UInt32 × UInt32) : State :=
  let { a, b, c, d, e, f, g, h } := state
  let s1 := rotateRight e 6 ^^^ rotateRight e 11 ^^^ rotateRight e 25
  let choice := (e &&& f) ^^^ (~~~e &&& g)
  let t1 := h + s1 + choice + input.1 + input.2
  let s0 := rotateRight a 2 ^^^ rotateRight a 13 ^^^ rotateRight a 22
  let majority := (a &&& b) ^^^ (a &&& c) ^^^ (b &&& c)
  { a := t1 + (s0 + majority), b := a, c := b, d := c, e := d + t1, f := e, g := f, h := g }

/-- Folds one block of sixteen words into the chaining words. -/
def compress (state : State) (block : List UInt32) : State :=
  let after := (roundConstants.zip (schedule 64 block)).foldl round state
  { a := state.a + after.a, b := state.b + after.b, c := state.c + after.c, d := state.d + after.d
    e := state.e + after.e, f := state.f + after.f, g := state.g + after.g, h := state.h + after.h }

/-- The zero octets that bring a message, its end mark and its length to whole blocks. -/
def paddingZeros (length : Nat) : Nat :=
  (119 - length % 64) % 64

/-- The message with its end mark, the padding and its length in bits. -/
def pad (message : Octets) : Octets :=
  message ++ 0x80 :: (List.replicate (paddingZeros message.length) 0 ++
    Octets.ofNat 8 (8 * message.length))

/-- Four octets as a word. -/
def word (a b c d : UInt8) : UInt32 :=
  a.toUInt32 <<< 24 ||| b.toUInt32 <<< 16 ||| c.toUInt32 <<< 8 ||| d.toUInt32

/-- The words of a sequence of octets. -/
def words : Octets → List UInt32
  | a :: b :: c :: d :: rest => word a b c d :: words rest
  | _ => []

/-- Folds whole blocks into the chaining words, at most `count` of them. -/
def absorb : (count : Nat) → State → List UInt32 → State
  | 0, state, _ => state
  | count + 1, state, input => absorb count (compress state (input.take 16)) (input.drop 16)

/-- The octets of a word. -/
def octets (word : UInt32) : Octets :=
  [(word >>> 24).toUInt8, (word >>> 16).toUInt8, (word >>> 8).toUInt8, word.toUInt8]

/-- The octets of the chaining words. -/
def State.toOctets (state : State) : Octets :=
  [state.a, state.b, state.c, state.d, state.e, state.f, state.g, state.h].flatMap octets

/-- The digest of a message. -/
def digest (message : Octets) : Octets :=
  let input := words (pad message)
  (absorb (input.length / 16) initial input).toOctets

/-- A digest has thirty-two octets. -/
theorem length_digest (message : Octets) : (digest message).length = 32 := rfl

/-! ## Keyed digests -/

/-- The length of a block in octets. -/
def blockLength : Nat := 64

/-- The keyed digest HMAC of RFC 2104. -/
def hmac (key message : Octets) : Octets :=
  let key := if blockLength < key.length then digest key else key
  let key := key ++ List.replicate (blockLength - key.length) 0
  digest (key.map (· ^^^ 0x5C) ++ digest (key.map (· ^^^ 0x36) ++ message))

end Sha256
end PlugAndCharge
