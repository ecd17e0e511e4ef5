import PlugAndCharge.Json.Record

/-!
# Credentials and signatures

Certificates, the encrypted contract key and what goes with it, and the detached signature that a
message header may carry.
-/

namespace PlugAndCharge

/-- A leaf certificate with the intermediate certificates above it, each in its binary form. -/
structure CertificateChain where
  id : Option String
  certificate : Octets
  subCertificates : List Octets
  deriving DecidableEq, Repr

instance : Json.Wire CertificateChain :=
  Json.recordWire
    (.cons (.optional "Id") <| .cons (.required "Certificate") <|
      .cons (.withDefault "SubCertificates" []) .nil)
    (fun c => (c.id, c.certificate, c.subCertificates, ()))
    (fun (id, certificate, subCertificates, _) => { id, certificate, subCertificates })

/-- A private key encrypted for the vehicle. -/
structure EncryptedPrivateKey where
  id : String
  value : Octets
  deriving DecidableEq, Repr

instance : Json.Wire EncryptedPrivateKey :=
  Json.recordWire
    (.cons (.required "Id") <| .cons (.required "Value") .nil)
    (fun e => (e.id, e.value, ()))
    (fun (id, value, _) => { id, value })

/-- The public half of the ephemeral key that the private key was encrypted with. -/
structure DhPublicKey where
  id : String
  value : Octets
  deriving DecidableEq, Repr

instance : Json.Wire DhPublicKey :=
  Json.recordWire
    (.cons (.required "Id") <| .cons (.required "Value") .nil)
    (fun d => (d.id, d.value, ()))
    (fun (id, value, _) => { id, value })

/-- The account that a contract belongs to. -/
structure Emaid where
  id : Option String
  value : String
  deriving DecidableEq, Repr

instance : Json.Wire Emaid :=
  Json.recordWire
    (.cons (.optional "Id") <| .cons (.required "Value") .nil)
    (fun e => (e.id, e.value, ()))
    (fun (id, value, _) => { id, value })

/-- A trusted root certificate, named by its issuer and serial number. -/
structure RootCertificateId where
  issuerName : String
  serialNumber : Octets
  deriving DecidableEq, Repr

instance : Json.Wire RootCertificateId :=
  Json.recordWire
    (.cons (.required "X509IssuerName") <| .cons (.required "X509SerialNumber") .nil)
    (fun r => (r.issuerName, r.serialNumber, ()))
    (fun (issuerName, serialNumber, _) => { issuerName, serialNumber })

/-- The digest of one signed element, which the URI names. -/
structure Reference where
  uri : String
  digestMethod : String
  digestValue : Octets
  deriving DecidableEq, Repr

instance : Json.Wire Reference :=
  Json.recordWire
    (.cons (.required "URI") <| .cons (.required "DigestMethod") <|
      .cons (.required "DigestValue") .nil)
    (fun r => (r.uri, r.digestMethod, r.digestValue, ()))
    (fun (uri, digestMethod, digestValue, _) => { uri, digestMethod, digestValue })

/-- What a signature covers: how it was made, and the elements it is for. -/
structure SignedInfo where
  canonicalizationMethod : String
  signatureMethod : String
  references : List Reference
  deriving DecidableEq, Repr

instance : Json.Wire SignedInfo :=
  Json.recordWire
    (.cons (.required "CanonicalizationMethod") <| .cons (.required "SignatureMethod") <|
      .cons (.required "Reference") .nil)
    (fun s => (s.canonicalizationMethod, s.signatureMethod, s.references, ()))
    (fun (canonicalizationMethod, signatureMethod, references, _) =>
      { canonicalizationMethod, signatureMethod, references })

/-- A detached signature. -/
structure Signature where
  signedInfo : SignedInfo
  signatureValue : Octets
  deriving DecidableEq, Repr

instance : Json.Wire Signature :=
  Json.recordWire
    (.cons (.required "SignedInfo") <| .cons (.required "SignatureValue") .nil)
    (fun s => (s.signedInfo, s.signatureValue, ()))
    (fun (signedInfo, signatureValue, _) => { signedInfo, signatureValue })

/-- The elements that a signature refers to, by their ids. -/
def Signature.referencedIds (signature : Signature) : List String :=
  signature.signedInfo.references.map fun reference =>
    String.ofList (reference.uri.toList.dropWhile (· == '#'))

end PlugAndCharge
