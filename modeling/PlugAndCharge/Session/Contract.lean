import PlugAndCharge.Session.Turn

/-!
# Contracts

A station may deliver a contract certificate with its encrypted key.  The delivery is signed as a
whole: nothing of it is used before its four elements have been found to be signed by someone whose
certificate goes back to the trusted root.
-/

namespace PlugAndCharge

namespace CertificateInstallationRes

/-- The id of an element that has to be signed. -/
def elementId (element : String) : Option String → Except PkiError String
  | some id => .ok id
  | none => .error (.signatureInvalid (.withoutId element))

/-- The four elements of a delivery that have to be signed. -/
def signedElements (content : CertificateInstallationRes) :
    Except PkiError (List SignedElement) := do
  let chainId ← elementId "ContractSignatureCertChain" content.contractChain.id
  let emaidId ← elementId "eMAID" content.emaid.id
  return [.ofValue chainId content.contractChain,
    .ofValue content.encryptedPrivateKey.id content.encryptedPrivateKey,
    .ofValue content.dhPublicKey.id content.dhPublicKey,
    .ofValue emaidId content.emaid]

/-- Checks that the elements of a delivery are signed. -/
def verify {ω : Type} (content : CertificateInstallationRes) (signature : Option Signature)
    (credentials : Credentials ω) (state : ω) : Except PkiError Unit :=
  match signature with
  | none => .error (.signatureInvalid .missing)
  | some signature => do
    let elements ← content.signedElements
    credentials.verify state signature elements content.provisioningChain.certificate
      content.provisioningChain.subCertificates .v2gRoot

end CertificateInstallationRes

namespace Turn

variable {ω : Type}

/-- The station has delivered a contract certificate. -/
def certificateInstallation (equipment : Equipment ω) (signature : Option Signature)
    (content : CertificateInstallationRes) : Turn ω Step := do
  let credentials := equipment.credentials
  useCredentials .verifyingInstallation (content.verify signature credentials)
  let key ← useCredentials .decryptingContractKey fun state =>
    credentials.decryptKey state content.encryptedPrivateKey.value .oemLeaf
      content.dhPublicKey.value
  act (equipment.vehicle.storeContract content.contractChain key)
  let emaid ← useCredentials .readingEmaid fun state =>
    credentials.commonName state content.contractChain.certificate
  send .paymentDetails
    (.paymentDetails { emaid, contractChain := { content.contractChain with id := none } })

/-- The station has challenged the vehicle, which signs the challenge with the contract key. -/
def paymentDetails (equipment : Equipment ω) (content : PaymentDetailsRes) : Turn ω Step :=
  sendSigned equipment.credentials .contractLeaf
    ({ id := some signedElementId, genChallenge := some content.genChallenge } : AuthorizationReq)
    .authorization .authorization

end Turn

end PlugAndCharge
