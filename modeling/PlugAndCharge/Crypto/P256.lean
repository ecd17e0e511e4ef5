import PlugAndCharge.Octets

/-!
# The curve P-256

The elliptic curve `y ^ 2 = x ^ 3 - 3 x + b` over a prime field, in affine coordinates for what is
exchanged and in Jacobian coordinates for arithmetic, and the SEC 1 encoding of its points.
-/

namespace PlugAndCharge
namespace P256

/-- The prime of the field. -/
def prime : Nat := 0xffffffff00000001000000000000000000000000ffffffffffffffffffffffff

/-- The number of points. -/
def order : Nat := 0xffffffff00000000ffffffffffffffffbce6faada7179e84f3b9cac2fc632551

/-- The constant of the curve's equation. -/
def b : Nat := 0x5ac635d8aa3a93e7b3ebbd55769886bc651d06b0cc53b0f63bce3c3e27d2604b

/-- A point other than the one at infinity. -/
structure Point where
  x : Nat
  y : Nat
  deriving DecidableEq, Repr

/-- The base point. -/
def base : Point where
  x := 0x6b17d1f2e12c4247f8bce6e563a440f277037d812deb33a0f4a13945d898c296
  y := 0x4fe342e2fe1a7f9b8ee7eb4a7c0f9e162bce33576b315ececbb6406837bf51f5

/-! ## Arithmetic modulo a number -/

/-- The power `base ^ exponent` modulo `modulus`, for an exponent of at most `bits` binary digits.
-/
def powMod (modulus base exponent : Nat) : (bits : Nat) → Nat
  | 0 => 1 % modulus
  | bits + 1 =>
    let root := powMod modulus base (exponent / 2) bits
    let square := root * root % modulus
    if exponent % 2 = 1 then square * base % modulus else square

/-- The inverse modulo a prime of at most 256 bits. -/
def inverseMod (modulus value : Nat) : Nat :=
  powMod modulus value (modulus - 2) 256

/-- The difference modulo the prime of the field. -/
def sub (left right : Nat) : Nat :=
  (left + (prime - right % prime)) % prime

/-! ## Points in Jacobian coordinates -/

/-- The point `(x / z ^ 2, y / z ^ 3)`, or the point at infinity if `z = 0`. -/
structure Jacobian where
  x : Nat
  y : Nat
  z : Nat
  deriving DecidableEq, Repr

namespace Jacobian

/-- The point at infinity. -/
def infinity : Jacobian := ⟨1, 1, 0⟩

/-- An affine point. -/
def ofPoint (point : Point) : Jacobian := ⟨point.x, point.y, 1⟩

/-- The affine coordinates; the point at infinity has none and gives zeros. -/
def toPoint (point : Jacobian) : Point :=
  let inverse := inverseMod prime point.z
  let square := inverse * inverse % prime
  ⟨point.x * square % prime, point.y * (square * inverse % prime) % prime⟩

/-- Twice a point. -/
def double (point : Jacobian) : Jacobian :=
  let delta := point.z * point.z % prime
  let gamma := point.y * point.y % prime
  let beta := point.x * gamma % prime
  let alpha := 3 * (sub point.x delta * (point.x + delta)) % prime
  let x := sub (alpha * alpha) (8 * beta)
  let z := sub ((point.y + point.z) * (point.y + point.z)) (gamma + delta)
  let y := sub (alpha * sub (4 * beta) x) (8 * gamma * gamma)
  ⟨x, y, z⟩

/-- The sum of two points. -/
def add (left right : Jacobian) : Jacobian :=
  if left.z = 0 then right
  else if right.z = 0 then left
  else
    let leftSquare := left.z * left.z % prime
    let rightSquare := right.z * right.z % prime
    let u1 := left.x * rightSquare % prime
    let u2 := right.x * leftSquare % prime
    let s1 := left.y * (rightSquare * right.z % prime) % prime
    let s2 := right.y * (leftSquare * left.z % prime) % prime
    if u1 = u2 then
      if s1 = s2 then left.double else infinity
    else
      let h := sub u2 u1
      let r := sub s2 s1
      let square := h * h % prime
      let cube := square * h % prime
      let v := u1 * square % prime
      let x := sub (r * r) (cube + 2 * v)
      let y := sub (r * sub v x) (s1 * cube)
      ⟨x, y, left.z * right.z % prime * h % prime⟩

/-- The multiple of a point by `scalar`, for a scalar of at most `bits` binary digits. -/
def multiply (point : Jacobian) (scalar : Nat) : (bits : Nat) → Jacobian
  | 0 => infinity
  | bits + 1 =>
    let twice := (multiply point (scalar / 2) bits).double
    if scalar % 2 = 1 then twice.add point else twice

end Jacobian

/-- The multiple of a point by `scalar`. -/
def multiply (scalar : Nat) (point : Point) : Jacobian :=
  (Jacobian.ofPoint point).multiply scalar 256

/-! ## Encoding -/

/-- The right-hand side of the curve's equation. -/
def cubic (x : Nat) : Nat :=
  (sub (x * x % prime * x) (3 * x) + b) % prime

/-- Whether coordinates are those of a point of the curve. -/
def onCurve (point : Point) : Bool :=
  point.x < prime && point.y < prime && point.y * point.y % prime == cubic point.x

namespace Point

/-- The uncompressed encoding. -/
def toSec1 (point : Point) : Octets :=
  0x04 :: (Octets.ofNat 32 point.x ++ Octets.ofNat 32 point.y)

/-- The two points with a given `x`, the one with even `y` first. -/
def withX? (x : Nat) : Option (Point × Point) :=
  let square := cubic x
  let root := powMod prime square ((prime + 1) / 4) 256
  if x < prime ∧ root * root % prime = square then
    let other := sub 0 root
    if root % 2 = 0 then some (⟨x, root⟩, ⟨x, other⟩) else some (⟨x, other⟩, ⟨x, root⟩)
  else none

/-- Reads a point from its uncompressed, compressed or compact encoding.  The compact one stands for
the point with the smaller `y`. -/
def ofSec1? (octets : Octets) : Option Point :=
  match octets with
  | [] => none
  | tag :: coordinates =>
    if tag = 0x04 ∧ coordinates.length = 64 then
      let point : Point :=
        ⟨Octets.toNat (coordinates.take 32), Octets.toNat (coordinates.drop 32)⟩
      if onCurve point then some point else none
    else if coordinates.length = 32 then do
      let (even, odd) ← withX? (Octets.toNat coordinates)
      if tag = 0x02 then some even
      else if tag = 0x03 then some odd
      else if tag = 0x05 then some (if even.y ≤ odd.y then even else odd)
      else none
    else none

end Point

/-! ## Private keys -/

/-- A private key: a scalar that is neither zero nor beyond the order. -/
structure PrivateKey where
  scalar : Nat
  pos : 0 < scalar
  lt_order : scalar < order
  deriving DecidableEq

namespace PrivateKey

/-- A private key in words, which tell nothing of its scalar. -/
def text (_key : PrivateKey) : String := "PrivateKey(..)"

instance : Repr PrivateKey where
  reprPrec key _ := key.text

/-- The private key with a scalar, if the scalar is in range. -/
def ofNat? (scalar : Nat) : Option PrivateKey :=
  if inRange : 0 < scalar ∧ scalar < order then some ⟨scalar, inRange.1, inRange.2⟩ else none

/-- Reads a scalar of 24 to 32 octets. -/
def ofOctets? (octets : Octets) : Option PrivateKey :=
  if 24 ≤ octets.length ∧ octets.length ≤ 32 then ofNat? (Octets.toNat octets) else none

/-- The scalar in thirty-two octets. -/
def toOctets (key : PrivateKey) : Octets :=
  Octets.ofNat 32 key.scalar

/-- The public half of a key. -/
def publicPoint (key : PrivateKey) : Point :=
  (multiply key.scalar base).toPoint

/-- The secret that two parties agree on: the `x` of the own key times the other's point. -/
def agree (own : PrivateKey) (peer : Point) : Octets :=
  Octets.ofNat 32 (multiply own.scalar peer).toPoint.x

end PrivateKey

end P256
end PlugAndCharge
