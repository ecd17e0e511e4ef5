import PlugAndCharge.Crypto.P256
import PlugAndCharge.Crypto.Sha256

/-!
# ECDSA

Signatures over P-256 with SHA-256.  The nonce is derived from the key and the message as RFC 6979
lays down, so that the same message is always signed alike.
-/

namespace PlugAndCharge
namespace Ecdsa

open P256 (order Point PrivateKey)

/-- The two numbers of a signature, each neither zero nor beyond the order. -/
structure Value where
  r : Nat
  s : Nat
  deriving DecidableEq, Repr

namespace Value

/-- Two numbers as a signature, if both are in range. -/
def ofNats? (r s : Nat) : Option Value :=
  if 0 < r ∧ r < order ∧ 0 < s ∧ s < order then some ⟨r, s⟩ else none

/-- Both numbers in thirty-two octets each. -/
def toOctets (value : Value) : Octets :=
  Octets.ofNat 32 value.r ++ Octets.ofNat 32 value.s

/-- Reads sixty-four octets. -/
def ofOctets? (octets : Octets) : Option Value :=
  if octets.length = 64 then
    ofNats? (Octets.toNat (octets.take 32)) (Octets.toNat (octets.drop 32))
  else none

end Value

/-- The digest of a message as a scalar. -/
def messageScalar (message : Octets) : Nat :=
  Octets.toNat (Sha256.digest message) % order

/-! ## The nonce -/

/-- The state of the generator of nonces. -/
structure Generator where
  key : Octets
  value : Octets
  deriving DecidableEq, Repr

namespace Generator

/-- Mixes octets into the key and moves on. -/
def update (generator : Generator) (octets : Octets) : Generator :=
  let key := Sha256.hmac generator.key (generator.value ++ octets)
  ⟨key, Sha256.hmac key generator.value⟩

/-- The generator for a private key and a message. -/
def start (key : PrivateKey) (message : Octets) : Generator :=
  let seed := key.toOctets ++ Octets.ofNat 32 (messageScalar message)
  let fresh : Generator := ⟨List.replicate 32 0x00, List.replicate 32 0x01⟩
  (fresh.update (0x00 :: seed)).update (0x01 :: seed)

/-- The first candidate in range among the next `tries`; one in four billion is out of range. -/
def next? (generator : Generator) : (tries : Nat) → Option Nat
  | 0 => none
  | tries + 1 =>
    let value := Sha256.hmac generator.key generator.value
    let candidate := Octets.toNat value
    if 0 < candidate ∧ candidate < order then some candidate
    else next? ({ generator with value := value }.update [0x00]) tries

end Generator

/-! ## Signing and verifying -/

/-- The signature of a message.  A run of bad luck that yields none does not occur in practice and
gives zeros, which no verifier accepts. -/
def sign (key : PrivateKey) (message : Octets) : Value :=
  match (Generator.start key message).next? 16 with
  | none => ⟨0, 0⟩
  | some nonce =>
    let r := (P256.multiply nonce P256.base).toPoint.x % order
    let s := P256.inverseMod order nonce * (messageScalar message + r * key.scalar) % order
    ⟨r, s⟩

/-- Whether a signature of a message is by the owner of a public key. -/
def verify (key : Point) (message : Octets) (signature : Value) : Bool :=
  let inverse := P256.inverseMod order signature.s
  let left := P256.multiply (messageScalar message * inverse % order) P256.base
  let right := P256.multiply (signature.r * inverse % order) key
  let sum := left.add right
  sum.z != 0 && sum.toPoint.x % order == signature.r

end Ecdsa
end PlugAndCharge
