import PlugAndCharge.Certificate.Basic

/-!
# What can go wrong with certificates and keys

Every fault is a value that names its cause; `PkiError.message` is the one place that puts a fault
into words.  Faults inside a file format or the file system are not told apart: they are named by
their kind in angle brackets.
-/

namespace PlugAndCharge

/-- The words for a fault inside the encoding of a certificate or key. -/
def encodingFaultText : String := "<library>"

/-- The words for a fault of the file system other than a missing file. -/
def ioFaultText : String := "<io>"

/-- Why a file cannot be read or written. -/
inductive FileError where
  | notFound (path : String)
  | io (path : String)
  deriving DecidableEq, Repr

/-- What is wrong with a certificate. -/
inductive CertificateFault where
  | unreadable
  | noCommonName
  | commonNameNotText
  | keyNotOnCurve
  | unsupportedAlgorithm (algorithm : Oid)
  | otherIssuer (subject issuer : DistinguishedName)
  | malformedSignature
  | badSignature (subject : DistinguishedName)
  deriving DecidableEq, Repr

/-- What is wrong with a key. -/
inductive KeyFault where
  | unreadable
  | scalarOutOfRange
  | peerNotOnCurve
  deriving DecidableEq, Repr

/-- What is wrong with the signature of a message. -/
inductive SignatureFault where
  | unsupportedMethod (method : String)
  | wrongCount (elements references : Nat)
  | notSigned (id : String)
  | digestMismatch (id : String)
  | malformedValue
  | wrongValue
  | missing
  | withoutId (element : String)
  deriving DecidableEq, Repr

/-- Why a key file cannot be used. -/
inductive KeyFileFault where
  | file (error : FileError)
  | notText
  | key (fault : KeyFault)
  deriving DecidableEq, Repr

/-- A fault of certificate or key handling. -/
inductive PkiError where
  | file (error : FileError)
  | privateKeyRead (path : String) (fault : KeyFileFault)
  | invalidCertificate (fault : CertificateFault)
  | invalidKey (fault : KeyFault)
  | signatureInvalid (fault : SignatureFault)
  /-- The encrypted key has a length other than the expected one. -/
  | decryption (expected actual : Nat)
  deriving DecidableEq, Repr

/-- A file fault in words. -/
def FileError.message : FileError → String
  | .notFound path => s!"file not found: {path}"
  | .io path => s!"I/O error on {path}: {ioFaultText}"

/-- A certificate fault in words. -/
def CertificateFault.message : CertificateFault → String
  | .unreadable => encodingFaultText
  | .noCommonName => "subject has no common name"
  | .commonNameNotText => "common name is not UTF-8"
  | .keyNotOnCurve => "subject key is not a P-256 point"
  | .unsupportedAlgorithm algorithm => s!"unsupported signature algorithm {algorithm.toDotted}"
  | .otherIssuer subject issuer => s!"{subject.toText} is not issued by {issuer.toText}"
  | .malformedSignature => "malformed certificate signature"
  | .badSignature subject => s!"bad signature on {subject.toText}"

/-- A key fault in words. -/
def KeyFault.message : KeyFault → String
  | .unreadable => encodingFaultText
  | .scalarOutOfRange => "not a valid P-256 scalar"
  | .peerNotOnCurve => "DH public key is not a P-256 point"

/-- A signature fault in words. -/
def SignatureFault.message : SignatureFault → String
  | .unsupportedMethod method => s!"unsupported signature method {method}"
  | .wrongCount elements references =>
    s!"expected {elements} signed elements, signature references {references}"
  | .notSigned id => s!"element {id} is not signed"
  | .digestMismatch id => s!"digest mismatch for element {id}"
  | .malformedValue => "malformed signature value"
  | .wrongValue => "ECDSA verification failed"
  | .missing => "header carries no signature"
  | .withoutId element => s!"{element} carries no Id"

/-- A key file fault in words. -/
def KeyFileFault.message : KeyFileFault → String
  | .file error => error.message
  | .notText => "not a PEM document"
  | .key fault => s!"invalid key: {fault.message}"

namespace PkiError

/-- A fault in words. -/
def message : PkiError → String
  | .file error => error.message
  | .privateKeyRead path fault => s!"can't read private key {path}: {fault.message}"
  | .invalidCertificate fault => s!"invalid certificate: {fault.message}"
  | .invalidKey fault => s!"invalid key: {fault.message}"
  | .signatureInvalid fault => s!"signature verification failed: {fault.message}"
  | .decryption expected actual =>
    s!"decryption failed: expected {expected} bytes of IV and ciphertext, got {actual}"

/-- The name of the kind of a fault. -/
def kind : PkiError → String
  | .file (.notFound _) => "NotFound"
  | .file (.io _) => "Io"
  | .privateKeyRead _ _ => "PrivateKeyRead"
  | .invalidCertificate _ => "InvalidCertificate"
  | .invalidKey _ => "InvalidKey"
  | .signatureInvalid _ => "SignatureInvalid"
  | .decryption _ _ => "Decryption"

end PkiError

end PlugAndCharge
