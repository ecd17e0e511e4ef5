import PlugAndCharge.Message.Credential
import PlugAndCharge.Security.Error
import PlugAndCharge.Security.Suite

/-!
# Chains of certificates

A certificate is issued by another if it names the other's subject as its issuer and the other's key
verifies its signature.  A chain goes from a leaf through intermediate certificates to a root.
Dates and the permitted uses of keys are not looked at.
-/

namespace PlugAndCharge
namespace Certificate

open P256 (Point)

/-- The certificate that octets hold. -/
def parse (der : Octets) : Except PkiError Certificate :=
  match ofDer? der with
  | some certificate => .ok certificate
  | none => .error (.invalidCertificate .unreadable)

/-- The common name of the subject: the octets of the first one, read as UTF-8. -/
def commonName (der : Octets) : Except PkiError String := do
  let certificate ← parse der
  match certificate.tbs.subject.commonName? with
  | none => throw (.invalidCertificate .noCommonName)
  | some content =>
    match Octets.toText? content with
    | some name => return name
    | none => throw (.invalidCertificate .commonNameNotText)

/-- The issuer and serial number by which a certificate is named. -/
def issuerSerial (der : Octets) : Except PkiError RootCertificateId := do
  let certificate ← parse der
  let tbs := certificate.tbs
  return { issuerName := tbs.issuer.toText, serialNumber := tbs.serialNumber }

/-- The public key of the subject. -/
def publicKey (certificate : Certificate) : Except PkiError Point :=
  match Point.ofSec1? certificate.tbs.subjectKey.key.octets with
  | some point => .ok point
  | none => .error (.invalidCertificate .keyNotOnCurve)

/-- Reads the content of a certificate's signature: two integers in a sequence. -/
def signatureValue? (der : Octets) : Option Ecdsa.Value := do
  let (r, s) ← Der.whole? (Der.nested Der.tagSequence do
    let r ← Der.natural
    let s ← Der.natural
    return (r, s)) der
  Ecdsa.Value.ofNats? r s

/-- Checks that a certificate is issued by another. -/
def verifyIssuedBy (suite : Suite) (certificate issuer : Certificate) : Except PkiError Unit := do
  if certificate.signatureAlgorithm.oid ≠ Oid.ecdsaWithSha256 then
    throw (.invalidCertificate (.unsupportedAlgorithm certificate.signatureAlgorithm.oid))
  if certificate.tbs.issuer ≠ issuer.tbs.subject then
    throw (.invalidCertificate (.otherIssuer certificate.tbs.subject issuer.tbs.subject))
  match signatureValue? certificate.signature.octets with
  | none => throw (.invalidCertificate .malformedSignature)
  | some value =>
    let key ← publicKey issuer
    if suite.verify key certificate.tbs.encode value then return ()
    else throw (.invalidCertificate (.badSignature certificate.tbs.subject))

/-- Checks that a certificate is issued by the first of the others, that one by the next, and the
last by the root. -/
def verifyLinks (suite : Suite) (root : Certificate) :
    (certificate : Certificate) → (subCertificates : List Octets) → Except PkiError Unit
  | certificate, [] => verifyIssuedBy suite certificate root
  | certificate, der :: rest => do
    let issuer ← parse der
    verifyIssuedBy suite certificate issuer
    verifyLinks suite root issuer rest

/-- Checks a chain and returns the public key of its leaf. -/
def verifyChain (suite : Suite) (leaf : Octets) (subCertificates : List Octets) (root : Octets) :
    Except PkiError Point := do
  let leaf ← parse leaf
  let root ← parse root
  verifyLinks suite root leaf subCertificates
  publicKey leaf

end Certificate
end PlugAndCharge
