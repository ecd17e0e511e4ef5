import PlugAndCharge.Pki.Store

/-!
# Credentials

What a session asks of certificates and keys.  They are given by operations on a state, of which
nothing else is known; none of the operations changes it.
-/

namespace PlugAndCharge

open P256 (PrivateKey)

/-- What a session asks of certificates and keys with state `ω`. -/
structure Credentials (ω : Type) where
  certificate : ω → CertificateSlot → Except PkiError Octets
  /-- A leaf with the certificates above it. -/
  chain : ω → CertificateSlot → List CertificateSlot → Except PkiError CertificateChain
  /-- The names of the trusted roots. -/
  rootIds : ω → Except PkiError (List RootCertificateId)
  /-- The common name of the subject of a certificate. -/
  commonName : ω → Octets → Except PkiError String
  /-- Signs elements with a stored key. -/
  sign : ω → List SignedElement → KeySlot → Except PkiError Signature
  /-- Checks a signature of elements by a leaf with the certificates above it, up to a stored root.
  -/
  verify : ω → Signature → List SignedElement → (leaf : Octets) → (subCertificates : List Octets) →
    (root : CertificateSlot) → Except PkiError Unit
  /-- Decrypts a key that was sent to the owner of a stored key. -/
  decryptKey : ω → (encrypted : Octets) → (own : KeySlot) → (peer : Octets) →
    Except PkiError PrivateKey

/-- The credentials in a directory that is part of a state. -/
def Directory.credentials {ω : Type} (suite : Suite) (directory : ω → Directory) :
    Credentials ω where
  certificate state slot := (directory state).loadCertificate slot
  chain state leaf subSlots := (directory state).loadChain leaf subSlots
  rootIds state := (directory state).rootIds
  commonName _ certificate := Certificate.commonName certificate
  sign state elements slot := (directory state).sign suite elements slot
  verify state signature elements leaf subCertificates root :=
    (directory state).verify suite signature elements leaf subCertificates root
  decryptKey state encrypted own peer := (directory state).decryptKey suite encrypted own peer

end PlugAndCharge
