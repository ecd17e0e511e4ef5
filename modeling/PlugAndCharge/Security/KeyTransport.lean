import PlugAndCharge.Security.Error
import PlugAndCharge.Security.Suite

/-!
# Transport of the contract key

A contract key travels encrypted: the sender's ephemeral key and the vehicle's own key agree on a
secret, a digest of which keys a block cipher in chaining mode.  The first block of what is sent is
the one that the chain starts from; the scalar takes the two blocks after it.
-/

namespace PlugAndCharge
namespace KeyTransport

open P256 (Point PrivateKey)

/-- The length of a block of the cipher, of its key and of the start of the chain. -/
def blockLength : Nat := 16

/-- The length of a scalar. -/
def scalarLength : Nat := 32

/-- What follows the secret in the key derivation: the algorithm and the two parties. -/
def derivationInfo : Octets := [0x01, 0x55, 0x56]

/-- The cipher's key from the agreed secret: the front of one digest of a counter, the secret and
the parties. -/
def sessionKey (suite : Suite) (secret : Octets) : Octets :=
  (suite.digest (Octets.ofNat 4 1 ++ secret ++ derivationInfo)).take blockLength

/-- The cipher's key between the owner of a key and the owner of an encoded point. -/
def agree (suite : Suite) (own : PrivateKey) (peer : Octets) : Except PkiError Octets :=
  match Point.ofSec1? peer with
  | none => .error (.invalidKey .peerNotOnCurve)
  | some peer => .ok (sessionKey suite (suite.agree own peer))

/-! ## Chaining -/

/-- Encrypts blocks, each added to the one before it first. -/
def encryptChain (cipher : Octets → Octets) : (previous : Octets) → List Octets → Octets
  | _, [] => []
  | previous, block :: blocks =>
    let encrypted := cipher (Octets.add previous block)
    encrypted ++ encryptChain cipher encrypted blocks

/-- Decrypts blocks, each added to the one before it last. -/
def decryptChain (cipher : Octets → Octets) : (previous : Octets) → List Octets → Octets
  | _, [] => []
  | previous, block :: blocks =>
    Octets.add previous (cipher block) ++ decryptChain cipher block blocks

/-- Cuts two blocks. -/
def twoBlocks (octets : Octets) : List Octets :=
  [octets.take blockLength, (octets.drop blockLength).take blockLength]

/-! ## Keys -/

/-- Reads the octets of a scalar. -/
def readScalar (octets : Octets) : Except PkiError PrivateKey :=
  match PrivateKey.ofOctets? octets with
  | some key => .ok key
  | none => .error (.invalidKey .scalarOutOfRange)

/-- Encrypts a key for the owner of `peer`, with the chain starting from `start`. -/
def encrypt (suite : Suite) (key ephemeral : PrivateKey) (peer start : Octets) :
    Except PkiError Octets := do
  let cipherKey ← agree suite ephemeral peer
  return start ++ encryptChain (suite.encryptBlock cipherKey) start (twoBlocks key.toOctets)

/-- Decrypts a key that the owner of `peer` sent. -/
def decrypt (suite : Suite) (encrypted : Octets) (own : PrivateKey) (peer : Octets) :
    Except PkiError PrivateKey := do
  if encrypted.length ≠ blockLength + scalarLength then
    throw (.decryption (blockLength + scalarLength) encrypted.length)
  let cipherKey ← agree suite own peer
  let start := encrypted.take blockLength
  let blocks := twoBlocks (encrypted.drop blockLength)
  readScalar (decryptChain (suite.decryptBlock cipherKey) start blocks)

end KeyTransport
end PlugAndCharge
