import PlugAndCharge.Proofs.Delivery
import PlugAndCharge.Session.Simulation

/-!
# Installed contracts

Whatever the station sends in place of a delivery, the vehicle is given a contract only for an
accepted response whose four elements, and nothing else, are signed by the owner of a certificate
under the stored root.  What it is given is what was signed.
-/

namespace PlugAndCharge

open P256 (Point PrivateKey)

/-- A vehicle with a record of the contracts that it has been given, the oldest first. -/
def Vehicle.recording {ω : Type} (vehicle : Vehicle ω) :
    Vehicle (ω × List (CertificateChain × PrivateKey)) where
  energyMode state := vehicle.energyMode state.1
  certInstallNeeded state := vehicle.certInstallNeeded state.1
  chargeParameters state := vehicle.chargeParameters state.1
  chooseSchedule schedules state :=
    let (selection, own) := vehicle.chooseSchedule schedules state.1
    (selection, own, state.2)
  continueCharging state :=
    let (goesOn, own) := vehicle.continueCharging state.1
    (goesOn, own, state.2)
  wantsPause state := vehicle.wantsPause state.1
  storeContract chain key state :=
    let (stored, own) := vehicle.storeContract chain key state.1
    (stored, own, state.2 ++ [(chain, key)])
  currentDemand state :=
    let (demand, own) := vehicle.currentDemand state.1
    (demand, own, state.2)

/-! ## Checks against a directory -/

namespace Directory

variable {suite : Suite} {directory : Directory}

theorem verify_eq_ok {signature : Signature} {elements : List SignedElement} {leaf : Octets}
    {subCertificates : List Octets} {root : CertificateSlot} :
    directory.verify suite signature elements leaf subCertificates root = .ok () ↔
      ∃ rootOctets key, directory.loadCertificate root = .ok rootOctets ∧
        Certificate.IsPath suite leaf subCertificates rootOctets key ∧
        signature.verify suite elements key = .ok () := by
  simp only [Directory.verify, Except.bind_eq_ok, Certificate.verifyChain_eq_ok,
    Except.mapError_eq_ok]
  constructor
  · rintro ⟨rootOctets, loaded, key, path, verified⟩
    exact ⟨rootOctets, key, loaded, path, verified⟩
  · rintro ⟨rootOctets, key, loaded, path, verified⟩
    exact ⟨rootOctets, loaded, key, path, verified⟩

theorem decryptKey_eq_ok {encrypted peer : Octets} {own : KeySlot} {key : PrivateKey} :
    directory.decryptKey suite encrypted own peer = .ok key ↔
      ∃ ownKey, directory.loadKey suite own = .ok ownKey ∧
        KeyTransport.decrypt suite encrypted ownKey peer = .ok key := by
  simp only [Directory.decryptKey, Except.bind_eq_ok]

end Directory

theorem CertificateInstallationRes.verify_eq_ok {ω : Type} {content : CertificateInstallationRes}
    {signature : Option Signature} {credentials : Credentials ω} {state : ω} :
    content.verify signature credentials state = .ok () ↔
      ∃ given chainId emaidId, signature = some given ∧
        content.contractChain.id = some chainId ∧ content.emaid.id = some emaidId ∧
        credentials.verify state given (content.elementsWith chainId emaidId)
          content.provisioningChain.certificate content.provisioningChain.subCertificates
          .v2gRoot = .ok () := by
  unfold CertificateInstallationRes.verify
  cases signature with
  | none => simp
  | some given =>
      simp only [Except.bind_eq_ok, signedElements_eq_ok]
      constructor
      · rintro ⟨elements, ⟨chainId, emaidId, hasChainId, hasEmaidId, rfl⟩, verified⟩
        exact ⟨given, chainId, emaidId, rfl, hasChainId, hasEmaidId, verified⟩
      · rintro ⟨_, chainId, emaidId, ⟨⟩, hasChainId, hasEmaidId, verified⟩
        exact ⟨_, ⟨chainId, emaidId, hasChainId, hasEmaidId, rfl⟩, verified⟩

/-! ## What a turn gives the vehicle -/

namespace Turn

variable {ω : Type} {equipment : Equipment ω} {now : Milliseconds}

/-- What is on board stays as it was, or else the delivery has been verified, its key decrypted and
both given to the vehicle. -/
theorem onboard_certificateInstallation (signature : Option Signature)
    (content : CertificateInstallationRes) (session : Session ω) :
    let after := sessionOf (certificateInstallation equipment signature content session)
    after.onboard = session.onboard ∨
      ∃ key, content.verify signature equipment.credentials session.onboard = .ok () ∧
        equipment.credentials.decryptKey session.onboard content.encryptedPrivateKey.value
          .oemLeaf content.dhPublicKey.value = .ok key ∧
        after.onboard =
          (equipment.vehicle.storeContract content.contractChain key session.onboard).2 := by
  simp only [certificateInstallation, bind, EStateM.bind, useCredentials]
  cases verified : content.verify signature equipment.credentials session.onboard with
  | error error => exact .inl rfl
  | ok =>
      dsimp only
      cases decrypted : equipment.credentials.decryptKey session.onboard
          content.encryptedPrivateKey.value .oemLeaf content.dhPublicKey.value with
      | error error => exact .inl rfl
      | ok key =>
          refine .inr ⟨key, rfl, rfl, ?_⟩
          dsimp only [act]
          rcases equipment.vehicle.storeContract content.contractChain key session.onboard
            with ⟨stored, onboard⟩
          cases stored with
          | error error => rfl
          | ok =>
              dsimp only
              cases equipment.credentials.commonName onboard content.contractChain.certificate <;>
                rfl

/-- While a delivery is awaited, no message but an accepted delivery changes what is on board. -/
theorem onboard_process_certificateInstallation (message : Message) (session : Session ω) :
    let after := sessionOf (process equipment now .certificateInstallation message session)
    after.onboard = session.onboard ∨
      ∃ content, message.body = .response (.certificateInstallation content) ∧
        after.onboard = (sessionOf (certificateInstallation equipment message.header.signature
          content session)).onboard := by
  simp only [process, bind, EStateM.bind, consult]
  cases validated : session.context.validate .certificateInstallation message with
  | error error => exact .inl rfl
  | ok response =>
      obtain ⟨body_eq, exchange_eq, -⟩ := Context.validate_eq_ok.mp validated
      cases response with
      | certificateInstallation content =>
          refine .inr ⟨content, body_eq, ?_⟩
          simp only [respond, Functor.map, EStateM.map]
          cases certificateInstallation equipment message.header.signature content session <;> rfl
      | _ => cases exchange_eq

end Turn

/-! ## What is behind a given contract -/

/-- The vehicle with its record, and the certificates and keys in a directory. -/
def Equipment.recording {ω : Type} (suite : Suite) (vehicle : Vehicle ω)
    (directory : ω → Directory) : Equipment (ω × List (CertificateChain × PrivateKey)) where
  vehicle := vehicle.recording
  credentials := Directory.credentials suite fun state => directory state.1

/-- A delivery is signed under a root: the references of the signature are, up to their order, those
to the four elements, and the signature is by the owner of a key on a path to the root. -/
structure CertificateInstallationRes.SignedUnder (suite : Suite) (root : Octets)
    (content : CertificateInstallationRes) (signature : Signature) : Prop where
  references : ∃ chainId emaidId, content.contractChain.id = some chainId ∧
    content.emaid.id = some emaidId ∧
    signature.signedInfo.references.Perm
      [⟨"#" ++ chainId, Signature.digestMethod,
          suite.digest (Json.Wire.write content.contractChain)⟩,
        ⟨"#" ++ content.encryptedPrivateKey.id, Signature.digestMethod,
          suite.digest (Json.Wire.write content.encryptedPrivateKey)⟩,
        ⟨"#" ++ content.dhPublicKey.id, Signature.digestMethod,
          suite.digest (Json.Wire.write content.dhPublicKey)⟩,
        ⟨"#" ++ emaidId, Signature.digestMethod, suite.digest (Json.Wire.write content.emaid)⟩]
  signer : ∃ key, Certificate.IsPath suite content.provisioningChain.certificate
      content.provisioningChain.subCertificates root key ∧
    signature.IsBy suite key

/-- A delivery that is verified, and whose key is decrypted, is signed under the stored root. -/
theorem CertificateInstallationRes.signedUnder {suite : Suite} {directory : Directory}
    {content : CertificateInstallationRes} {signature : Signature} {chainId emaidId : String}
    {oemKey key : PrivateKey} (hasChainId : content.contractChain.id = some chainId)
    (hasEmaidId : content.emaid.id = some emaidId)
    (digests : Set.InjOn suite.digest {octets | octets ∈ content.encodings})
    (verified : directory.verify suite signature (content.elementsWith chainId emaidId)
      content.provisioningChain.certificate content.provisioningChain.subCertificates
      .v2gRoot = .ok ())
    (decrypted : KeyTransport.decrypt suite content.encryptedPrivateKey.value oemKey
      content.dhPublicKey.value = .ok key) :
    ∃ root, directory.loadCertificate .v2gRoot = .ok root ∧
      content.SignedUnder suite root signature := by
  obtain ⟨root, signer, loaded, path, accepted⟩ := Directory.verify_eq_ok.mp verified
  have ⟨keyLength, pointLength⟩ := KeyTransport.lengths_of_decrypt decrypted
  have nodup := nodup_elementsWith hasChainId hasEmaidId keyLength pointLength
  have perm := Signature.references_perm_of_verify accepted
    (Signature.nodup_map_referenceTo digests nodup)
  have isBy := (Signature.verify_eq_ok.mp accepted).1
  exact ⟨root, loaded, ⟨chainId, emaidId, hasChainId, hasEmaidId, perm⟩, signer, path, isBy⟩

/-- While a delivery is awaited, the vehicle is given something only if the message is a delivery
that is signed under the stored root.  It is given the delivered chain with the key that the
vehicle's own key decrypts, once.  This asks of the digest that it tells the four elements apart,
and nothing of their ids. -/
theorem Turn.given_contract_signed {ω : Type} (suite : Suite) (vehicle : Vehicle ω)
    (directory : ω → Directory) (now : Milliseconds) (message : Message)
    (session : Session (ω × List (CertificateChain × PrivateKey)))
    (digests : ∀ content, message.body = .response (.certificateInstallation content) →
      Set.InjOn suite.digest {octets | octets ∈ content.encodings})
    (given :
      (sessionOf (process (Equipment.recording suite vehicle directory) now
        .certificateInstallation message session)).onboard.2 ≠ session.onboard.2) :
    ∃ content signature root oemKey key,
      message.body = .response (.certificateInstallation content) ∧
        message.header.signature = some signature ∧
        (directory session.onboard.1).loadCertificate .v2gRoot = .ok root ∧
        content.SignedUnder suite root signature ∧
        (directory session.onboard.1).loadKey suite .oemLeaf = .ok oemKey ∧
        KeyTransport.decrypt suite content.encryptedPrivateKey.value oemKey
          content.dhPublicKey.value = .ok key ∧
        (sessionOf (process (Equipment.recording suite vehicle directory) now
          .certificateInstallation message session)).onboard.2 =
            session.onboard.2 ++ [(content.contractChain, key)] := by
  obtain unchanged | ⟨content, body_eq, came⟩ :=
    @onboard_process_certificateInstallation _ (Equipment.recording suite vehicle directory) now
      message session
  · exact absurd (congrArg Prod.snd unchanged) given
  obtain unchanged | ⟨key, verified, decrypted, stored⟩ :=
    @onboard_certificateInstallation _ (Equipment.recording suite vehicle directory)
      message.header.signature content session
  · exact absurd (congrArg Prod.snd (came.trans unchanged)) given
  obtain ⟨signature, chainId, emaidId, isSigned, hasChainId, hasEmaidId, checked⟩ :=
    CertificateInstallationRes.verify_eq_ok.mp verified
  obtain ⟨oemKey, loadedKey, decryptedKey⟩ := Directory.decryptKey_eq_ok.mp decrypted
  obtain ⟨root, loadedRoot, signed⟩ := CertificateInstallationRes.signedUnder hasChainId hasEmaidId
    (digests content body_eq) checked decryptedKey
  refine ⟨content, signature, root, oemKey, key, body_eq, isSigned, loadedRoot, signed, loadedKey,
    decryptedKey, ?_⟩
  rw [came, stored]
  rfl

/-! ## A delivery that is accepted -/

namespace AcceptedDelivery

/-- The key of everyone who takes part. -/
def commonKey : PrivateKey := ⟨1, by decide, by decide⟩

/-- A name with nothing but a common name. -/
def distinguishedName (name : String) : DistinguishedName where
  parts := [[{ oid := Oid.commonName, value := ⟨Der.tagUtf8String, Octets.ofText name⟩ }]]

/-- How the certificates are signed. -/
def signatureAlgorithm : AlgorithmIdentifier where
  oid := Oid.ecdsaWithSha256
  parameters := none

/-- A certificate with a signature whose nonce is one. -/
def certificate (issuer subject : String) (s : Nat) : Certificate where
  tbs :=
    { version := 2
      serialNumber := [1]
      signatureAlgorithm
      issuer := distinguishedName issuer
      validity :=
        { notBefore := ⟨Der.tagUtcTime, Octets.ofText "250101000000Z"⟩
          notAfter := ⟨Der.tagUtcTime, Octets.ofText "450101000000Z"⟩ }
      subject := distinguishedName subject
      subjectKey := { algorithm := KeyFile.keyAlgorithm, key := ⟨0, P256.base.toSec1⟩ }
      issuerUniqueId := none
      subjectUniqueId := none
      extensions := none }
  signatureAlgorithm
  signature :=
    ⟨0, Der.encode Der.tagSequence
      (Der.encode Der.tagInteger (Der.naturalContent P256.base.x) ++
        Der.encode Der.tagInteger (Der.naturalContent s))⟩

/-- The root and the vehicle's key. -/
def directory : Directory where
  root := ""
  files :=
    [(CertificateSlot.v2gRoot.path, (certificate "R" "R" 1).encode),
      (KeySlot.oemLeaf.path, KeyFile.encode Suite.standard commonKey)]
  folders := []

/-- A delivery of the common key, encrypted for its owner.  The contract certificate is not looked
at before the vehicle is given it. -/
def content : CertificateInstallationRes where
  responseCode := .ok
  provisioningChain :=
    { id := none
      certificate := (certificate "R" "L"
        98510274183022576876906585031154964576049118706414852369303476444656884779700).encode
      subCertificates := [] }
  contractChain := { id := some "1", certificate := [0x30, 0x00], subCertificates := [] }
  encryptedPrivateKey :=
    { id := "2"
      value := List.replicate 16 0x00 ++
        Octets.ofNat 32 0x89b3aedbee9296f9b12a51a34d86d54e548b4eefd23fb06378cb5a30920f6af0 }
  dhPublicKey := { id := "3", value := P256.base.toSec1 }
  emaid := { id := some "4", value := "C" }

/-- The delivery with its signature, whose nonce is one as well. -/
def message : Message where
  header :=
    { sessionId := SessionId.unassigned
      signature := some
        { signedInfo := Signature.infoFor Suite.standard (content.elementsWith "1" "4")
          signatureValue := Octets.ofNat 32 P256.base.x ++ Octets.ofNat 32
            4126809153196593747893132641554746997379410385941042400110153689052709111399 } }
  body := .response (.certificateInstallation content)

/-- A session in which the vehicle has not been given a contract. -/
def session : Session (Onboard × List (CertificateChain × PrivateKey)) where
  context := Context.start [] true Timeouts.standard none none
  onboard :=
    ({ simulator := Simulator.start VehicleSettings.standard false, directory }, [])

/-- The session once the delivery has been taken. -/
def sessionAfter : Session (Onboard × List (CertificateChain × PrivateKey)) :=
  Turn.sessionOf
    (Turn.process
      (Equipment.recording Suite.standard (Onboard.vehicle Suite.standard) Onboard.directory) 0
      .certificateInstallation message session)

theorem nodup_digests : (content.encodings.map Suite.standard.digest).Nodup := by
  decide +kernel

theorem isGiven : sessionAfter.onboard.2 ≠ session.onboard.2 := by
  decide +kernel

/-- The vehicle is given this delivery, which is signed under a root. -/
theorem given_signed :
    sessionAfter.onboard.2 ≠ session.onboard.2 ∧
      ∃ delivered signature root key,
        message.body = .response (.certificateInstallation delivered) ∧
          message.header.signature = some signature ∧
          delivered.SignedUnder Suite.standard root signature ∧
          sessionAfter.onboard.2 = session.onboard.2 ++ [(delivered.contractChain, key)] := by
  have digests : ∀ delivered, message.body = .response (.certificateInstallation delivered) →
      Set.InjOn Suite.standard.digest {octets | octets ∈ delivered.encodings} := by
    rintro _ ⟨⟩
    exact List.inj_on_of_nodup_map nodup_digests
  obtain ⟨delivered, signature, root, oemKey, key, body_eq, isSigned, -, signed, -, -, given⟩ :=
    Turn.given_contract_signed Suite.standard (Onboard.vehicle Suite.standard) Onboard.directory 0
      message session digests isGiven
  exact ⟨isGiven, delivered, signature, root, key, body_eq, isSigned, signed, given⟩

end AcceptedDelivery
end PlugAndCharge
