import PlugAndCharge.Message.Credential
import PlugAndCharge.Security.Error
import PlugAndCharge.Security.Suite

/-!
# Signatures of messages

A signature lists a reference for each signed element, which holds the element's id and the digest
of its octets, and signs the octets of that list.
-/

namespace PlugAndCharge

open P256 (Point PrivateKey)

/-- An element that is signed: its id and its octets. -/
structure SignedElement where
  id : String
  octets : Octets
  deriving DecidableEq, Repr

/-- A value as a signed element. -/
def SignedElement.ofValue {α : Type} [Json.Wire α] (id : String) (value : α) : SignedElement where
  id := id
  octets := Json.Wire.write value

namespace Signature

/-- How the signed list is brought into octets. -/
def canonicalizationMethod : String := "http://www.w3.org/TR/canonical-exi/"

/-- How the list is signed. -/
def signatureMethod : String := "http://www.w3.org/2001/04/xmldsig-more#ecdsa-sha256"

/-- How the elements are digested. -/
def digestMethod : String := "http://www.w3.org/2001/04/xmlenc#sha256"

/-- The reference to an element. -/
def referenceTo (suite : Suite) (element : SignedElement) : Reference where
  uri := "#" ++ element.id
  digestMethod := digestMethod
  digestValue := suite.digest element.octets

/-- The list of references to elements. -/
def infoFor (suite : Suite) (elements : List SignedElement) : SignedInfo where
  canonicalizationMethod := canonicalizationMethod
  signatureMethod := signatureMethod
  references := elements.map (referenceTo suite)

/-- Signs elements. -/
def create (suite : Suite) (elements : List SignedElement) (key : PrivateKey) : Signature :=
  let signedInfo := infoFor suite elements
  { signedInfo
    signatureValue := (suite.sign key (Json.Wire.write signedInfo)).toOctets }

/-- Checks that the first reference to an element's id holds its digest. -/
def checkElement (suite : Suite) (references : List Reference) (element : SignedElement) :
    Except SignatureFault Unit :=
  let expected := referenceTo suite element
  match references.find? fun reference => reference.uri == expected.uri with
  | none => .error (.notSigned element.id)
  | some reference =>
    if reference.digestMethod = digestMethod ∧ reference.digestValue = expected.digestValue then
      .ok ()
    else .error (.digestMismatch element.id)

/-- Checks elements in their order. -/
def checkElements (suite : Suite) (references : List Reference) :
    List SignedElement → Except SignatureFault Unit
  | [] => .ok ()
  | element :: elements => do
    checkElement suite references element
    checkElements suite references elements

/-- Checks that a signature is for as many elements as given, refers to each of them and is by the
owner of a public key. -/
def verify (suite : Suite) (signature : Signature) (elements : List SignedElement) (key : Point) :
    Except SignatureFault Unit := do
  let info := signature.signedInfo
  if info.signatureMethod ≠ signatureMethod then throw (.unsupportedMethod info.signatureMethod)
  if info.references.length ≠ elements.length then
    throw (.wrongCount elements.length info.references.length)
  checkElements suite info.references elements
  match Ecdsa.Value.ofOctets? signature.signatureValue with
  | none => throw .malformedValue
  | some value =>
    if suite.verify key (Json.Wire.write info) value then return () else throw .wrongValue

end Signature

end PlugAndCharge
