import PlugAndCharge.Certificate.Chain
import PlugAndCharge.Pki.Directory
import PlugAndCharge.Security.KeyFile
import PlugAndCharge.Security.KeyTransport
import PlugAndCharge.Security.MessageSignature

/-!
# The certificate store

Certificates and private keys lie in a directory under fixed names, certificates in their binary
form and keys in PEM.  The operations read the directory, and write to it only to store.
-/

namespace PlugAndCharge

open P256 (PrivateKey)

/-- The certificates that have a place in the store. -/
inductive CertificateSlot where
  | v2gRoot
  | oemLeaf
  | contractLeaf
  | moSubCa1
  | moSubCa2
  deriving DecidableEq, Repr

/-- The private keys that have a place in the store. -/
inductive KeySlot where
  | oemLeaf
  | contractLeaf
  deriving DecidableEq, Repr

/-- Where a certificate lies. -/
def CertificateSlot.path : CertificateSlot → Path
  | .v2gRoot => ["certs", "v2gRootCACert.der"]
  | .oemLeaf => ["certs", "oemLeafCert.der"]
  | .contractLeaf => ["certs", "contractLeafCert.der"]
  | .moSubCa1 => ["certs", "moSubCA1Cert.der"]
  | .moSubCa2 => ["certs", "moSubCA2Cert.der"]

/-- Where a private key lies. -/
def KeySlot.path : KeySlot → Path
  | .oemLeaf => ["private_keys", "oemLeaf.key"]
  | .contractLeaf => ["private_keys", "contractLeaf.key"]

/-- The intermediate certificates of a contract, the issuer of the leaf first. -/
def contractSubSlots : List CertificateSlot := [.moSubCa2, .moSubCa1]

namespace Directory

/-! ## Loading -/

/-- Loads a certificate. -/
def loadCertificate (directory : Directory) (slot : CertificateSlot) : Except PkiError Octets :=
  (directory.read slot.path).mapError .file

/-- Loads certificates in their order. -/
def loadCertificates (directory : Directory) :
    List CertificateSlot → Except PkiError (List Octets)
  | [] => .ok []
  | slot :: slots => do
    let certificate ← directory.loadCertificate slot
    let certificates ← directory.loadCertificates slots
    return certificate :: certificates

/-- Loads a leaf with the certificates above it. -/
def loadChain (directory : Directory) (leaf : CertificateSlot) (subSlots : List CertificateSlot) :
    Except PkiError CertificateChain := do
  let certificate ← directory.loadCertificate leaf
  let subCertificates ← directory.loadCertificates subSlots
  return { id := none, certificate, subCertificates }

/-- Loads a private key.  Whatever goes wrong, the fault names the key file. -/
def loadKey (suite : Suite) (directory : Directory) (slot : KeySlot) :
    Except PkiError PrivateKey :=
  let fault (fault : KeyFileFault) : Except PkiError PrivateKey :=
    .error (.privateKeyRead (directory.fullPath slot.path) fault)
  match directory.read slot.path with
  | .error error => fault (.file error)
  | .ok content =>
    if (Octets.toText? content).isNone then fault .notText
    else
      match KeyFile.decode suite content with
      | .ok key => .ok key
      | .error error => fault (.key error)

/-- The names of the trusted roots. -/
def rootIds (directory : Directory) : Except PkiError (List RootCertificateId) := do
  let root ← directory.loadCertificate .v2gRoot
  let id ← Certificate.issuerSerial root
  return [id]

/-! ## Storing -/

/-- Writes a file of the store. -/
def store (directory : Directory) (path : Path) (content : Octets) : Except PkiError Directory :=
  (directory.write path content).mapError .file

/-- Stores a certificate. -/
def storeCertificate (directory : Directory) (slot : CertificateSlot) (certificate : Octets) :
    Except PkiError Directory :=
  directory.store slot.path certificate

/-- Stores a private key. -/
def storeKey (suite : Suite) (directory : Directory) (slot : KeySlot) (key : PrivateKey) :
    Except PkiError Directory :=
  directory.store slot.path (KeyFile.encode suite key)

/-- The files of a contract in the order in which they are written: the leaf, the intermediate
certificates as far as there are places for them, and the key. -/
def contractFiles (suite : Suite) (chain : CertificateChain) (key : PrivateKey) :
    List (Path × Octets) :=
  (CertificateSlot.contractLeaf.path, chain.certificate) ::
    ((contractSubSlots.map CertificateSlot.path).zip chain.subCertificates ++
      [(KeySlot.contractLeaf.path, KeyFile.encode suite key)])

/-- Writes files one after the other.  What was written before a fault stays. -/
def storeAll (directory : Directory) : List (Path × Octets) → Except PkiError Unit × Directory
  | [] => (.ok (), directory)
  | (path, content) :: files =>
    match directory.store path content with
    | .error error => (.error error, directory)
    | .ok directory => directory.storeAll files

/-- Stores a contract.  What was written before a fault stays. -/
def storeContract (suite : Suite) (directory : Directory) (chain : CertificateChain)
    (key : PrivateKey) : Except PkiError Unit × Directory :=
  directory.storeAll (contractFiles suite chain key)

/-! ## Using certificates and keys -/

/-- Signs elements with a stored key. -/
def sign (suite : Suite) (directory : Directory) (elements : List SignedElement) (slot : KeySlot) :
    Except PkiError Signature := do
  let key ← directory.loadKey suite slot
  return Signature.create suite elements key

/-- Checks a signature of elements by a leaf whose chain goes to a stored root. -/
def verify (suite : Suite) (directory : Directory) (signature : Signature)
    (elements : List SignedElement) (leaf : Octets) (subCertificates : List Octets)
    (root : CertificateSlot) : Except PkiError Unit := do
  let root ← directory.loadCertificate root
  let key ← Certificate.verifyChain suite leaf subCertificates root
  (Signature.verify suite signature elements key).mapError .signatureInvalid

/-- Decrypts a key that was sent to the owner of a stored key. -/
def decryptKey (suite : Suite) (directory : Directory) (encrypted : Octets) (own : KeySlot)
    (peer : Octets) : Except PkiError PrivateKey := do
  let own ← directory.loadKey suite own
  KeyTransport.decrypt suite encrypted own peer

end Directory

end PlugAndCharge
