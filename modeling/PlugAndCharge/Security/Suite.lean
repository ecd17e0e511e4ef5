import PlugAndCharge.Crypto.Aes128
import PlugAndCharge.Crypto.Ecdsa

/-!
# Cipher suites

The primitives that the security layer is built on.  `Suite.standard` is the one that the messages
call for; the layer itself asks nothing of a suite but these functions.
-/

namespace PlugAndCharge

open P256 (Point PrivateKey)

/-- The primitives of the security layer. -/
structure Suite where
  /-- The digest of a message. -/
  digest : Octets → Octets
  /-- The public half of a key. -/
  publicPoint : PrivateKey → Point
  /-- The signature of a message. -/
  sign : PrivateKey → Octets → Ecdsa.Value
  /-- Whether a signature of a message is by the owner of a public key. -/
  verify : Point → Octets → Ecdsa.Value → Bool
  /-- The secret that the owner of a key shares with the owner of a point. -/
  agree : PrivateKey → Point → Octets
  /-- Encrypts a block of sixteen octets under a key. -/
  encryptBlock : (key block : Octets) → Octets
  /-- Decrypts a block of sixteen octets under a key. -/
  decryptBlock : (key block : Octets) → Octets

/-- P-256, SHA-256 and AES-128. -/
def Suite.standard : Suite where
  digest := Sha256.digest
  publicPoint := PrivateKey.publicPoint
  sign := Ecdsa.sign
  verify := Ecdsa.verify
  agree := PrivateKey.agree
  encryptBlock := Aes128.encryptBlock
  decryptBlock := Aes128.decryptBlock

end PlugAndCharge
