import PlugAndCharge.Proofs.Renewal

/-!
# Contracts and their keys

The certificate of a contract and its key come in one response, under one signature, and the vehicle
is given them together.  Nothing on board compares the two: the key is the one of the certificate if
the station has put them together so, and has encrypted the key for this vehicle.
-/

namespace PlugAndCharge

open P256 (Point PrivateKey)

/-! ## Certificates and keys -/

namespace Certificate

/-- The public key of the subject of a certificate that octets hold. -/
def subjectKey (der : Octets) : Except PkiError Point := do
  publicKey (← parse der)

/-- A certificate is for a key: its subject's key is the public half of the key. -/
def IsFor (suite : Suite) (key : PrivateKey) (der : Octets) : Prop :=
  subjectKey der = .ok (suite.publicPoint key)

instance (suite : Suite) (key : PrivateKey) (der : Octets) : Decidable (IsFor suite key der) :=
  inferInstanceAs (Decidable (_ = _))

end Certificate

/-- The receiver of a message finds its request signed by the subject of a certificate. -/
def Message.VerifiesWith (suite : Suite) (certificate : Octets) (message : Message) : Prop :=
  ∃ point, Certificate.subjectKey certificate = .ok point ∧ message.VerifiesUnder suite point

/-- A chain and a key come in one delivery: its signature, which is verified under the stored root,
covers the chain and the encrypted key, and the vehicle's own key decrypts it. -/
structure CertificateInstallationRes.Delivers (suite : Suite) (directory : Directory)
    (signature : Option Signature) (content : CertificateInstallationRes) (key : PrivateKey) :
    Prop where
  isSigned : ∃ given chainId emaidId, signature = some given ∧
    content.contractChain.id = some chainId ∧ content.emaid.id = some emaidId ∧
    directory.verify suite given (content.elementsWith chainId emaidId)
      content.provisioningChain.certificate content.provisioningChain.subCertificates .v2gRoot =
        .ok ()
  isDecrypted : directory.decryptKey suite content.encryptedPrivateKey.value .oemLeaf
    content.dhPublicKey.value = .ok key

/-! ## Vehicles that keep a key -/

/-- Whatever contract a vehicle takes, it puts the key where a directory has the contract key. -/
def Vehicle.KeepsKey {ω : Type} (suite : Suite) (directory : ω → Directory) (vehicle : Vehicle ω)
    (state : ω) : Prop :=
  ∀ chain key, (vehicle.storeContract chain key state).1 = .ok () →
    (directory (vehicle.storeContract chain key state).2).loadKey suite .contractLeaf = .ok key

/-- The simulated vehicle keeps the key if it persists contracts. -/
theorem Onboard.keepsKey {suite : Suite} {onboard : Onboard}
    (persists : onboard.simulator.persists = true) :
    (vehicle suite).KeepsKey suite Onboard.directory onboard :=
  fun _ _ kept => (holds_storeContract persists kept).key

/-! ## The turns of a contract -/

namespace Turn

variable {ω : Type} {suite : Suite} {directory : ω → Directory} {now : Milliseconds}
  {message : Message}

/-- While a delivery is awaited, a message leads on only if it is one that is installed. -/
theorem process_certificateInstallation_eq_ok {equipment : Equipment ω}
    {session after : Session ω} {outcome : Outcome} :
    process equipment now .certificateInstallation message session = .ok outcome after ↔
      ∃ content next,
        session.context.validate .certificateInstallation message =
            .ok (.certificateInstallation content) ∧
          outcome = .next next ∧
          certificateInstallation equipment message.header.signature content session =
            .ok next after := by
  rw [process_eq_ok]
  constructor
  · rintro ⟨response, validated, responded⟩
    obtain ⟨-, exchange_eq, -⟩ := Context.validate_eq_ok.mp validated
    cases response with
    | certificateInstallation content =>
        obtain ⟨next, installed, rfl⟩ := map_eq_ok.mp responded
        exact ⟨content, next, validated, rfl, installed⟩
    | _ => cases exchange_eq
  · rintro ⟨content, next, validated, rfl, installed⟩
    exact ⟨_, validated, next_eq_ok.mpr installed⟩

/-- The answer to a challenge is verified under the public half of the stored key. -/
theorem verifiesUnder_of_paymentDetails {equipment : Equipment ω} {later answered : Session ω}
    {asks : Step} {key : PrivateKey} {challenge : PaymentDetailsRes}
    (credentials_eq : equipment.credentials = Directory.credentials suite directory)
    (body_eq : message.body = .response (.paymentDetails challenge))
    (accepts : suite.Accepts key
      (Json.Wire.write (Signature.infoFor suite [challenge.signedAnswer])))
    (stored : (directory later.onboard).loadKey suite .contractLeaf = .ok key)
    (processed : process equipment now .paymentDetails message later =
      .ok (.next asks) answered) :
    asks.message.VerifiesUnder suite (suite.publicPoint key) := by
  obtain ⟨response, validated, responded⟩ := process_eq_ok.mp processed
  cases body_eq.symm.trans (Context.validate_eq_ok.mp validated).1
  have isSigned := (sends_respond responded).isSigned
  obtain ⟨_, -, rfl, rfl⟩ := paymentDetails_eq_ok.mp (next_eq_ok.mp responded)
  rw [credentials_eq] at isSigned
  exact isSigned.verifiesUnder rfl stored accepts

end Turn

/-- A vehicle that presents a contract after an installation has been given the chain that it
presents, with a key from the same delivery.  If the key is the one of the certificate, and the
vehicle keeps it, every request for leave that is signed from then on is verified with the presented
certificate.  This asks of the suite that it accepts what it signs. -/
theorem Turn.installed_together {ω : Type} (suite : Suite) (vehicle : Vehicle ω)
    (directory : ω → Directory) (now : Milliseconds) (message : Message)
    (session after : Session (ω × List (CertificateChain × PrivateKey))) (next : Step)
    (installed : process (Equipment.recording suite vehicle directory) now
      .certificateInstallation message session = .ok (.next next) after) :
    ∃ content key emaid,
      message.body = .response (.certificateInstallation content) ∧
        content.Delivers suite (directory session.onboard.1) message.header.signature key ∧
        after.onboard.2 = session.onboard.2 ++ [(content.contractChain, key)] ∧
        next.request = .paymentDetails
          { emaid, contractChain := { content.contractChain with id := none } } ∧
        (Certificate.IsFor suite key content.contractChain.certificate →
          vehicle.KeepsKey suite directory session.onboard.1 →
          ∀ later answered asks moment answer challenge,
            directory later.onboard.1 = directory after.onboard.1 →
            answer.body = .response (.paymentDetails challenge) →
            suite.Accepts key
              (Json.Wire.write (Signature.infoFor suite [challenge.signedAnswer])) →
            process (Equipment.recording suite vehicle directory) moment .paymentDetails answer
              later = .ok (.next asks) answered →
              asks.message.VerifiesWith suite content.contractChain.certificate) := by
  obtain ⟨content, _, validated, ⟨⟩, installed⟩ :=
    process_certificateInstallation_eq_ok.mp installed
  obtain ⟨body_eq, -⟩ := Context.validate_eq_ok.mp validated
  obtain ⟨key, emaid, verified, decrypted, kept, rfl, -, rfl⟩ :=
    certificateInstallation_eq_ok.mp installed
  refine ⟨content, key, emaid, body_eq,
    ⟨CertificateInstallationRes.verify_eq_ok.mp verified, decrypted⟩, rfl, rfl, ?_⟩
  intro isFor keeps later answered asks moment answer challenge sameDirectory answer_eq accepts
    processed
  have stored : (directory later.onboard.1).loadKey suite .contractLeaf = .ok key := by
    rw [sameDirectory]
    exact keeps content.contractChain key kept
  exact ⟨_, isFor, verifiesUnder_of_paymentDetails rfl answer_eq accepts stored processed⟩

/-! ## A contract with its key -/

namespace StoredDelivery

open AcceptedDelivery (commonKey)

/-- What takes part in a session of the simulated vehicle with its record. -/
def equipment : Equipment (Onboard × List (CertificateChain × PrivateKey)) :=
  Equipment.recording Suite.standard (Onboard.vehicle Suite.standard) Onboard.directory

/-- A directory with the root of the delivery and a key of the vehicle. -/
def directoryWith (ownKey : PrivateKey) : Directory where
  root := ""
  files :=
    [(CertificateSlot.v2gRoot.path, (AcceptedDelivery.certificate "R" "R" 1).encode),
      (KeySlot.oemLeaf.path, KeyFile.encode Suite.standard ownKey)]
  folders := []

/-- A session that awaits the delivery, in which the vehicle has not been given a contract. -/
def recordedSession (ownKey : PrivateKey) :
    Session (Onboard × List (CertificateChain × PrivateKey)) where
  context := (sessionWith (directoryWith ownKey)).context
  onboard := ((sessionWith (directoryWith ownKey)).onboard, [])

/-- The session once the vehicle has been given the contract with a key. -/
def sessionGiven (ownKey key : PrivateKey) :
    Session (Onboard × List (CertificateChain × PrivateKey)) :=
  { recordedSession ownKey with
    onboard := (equipment.vehicle.storeContract chain key (recordedSession ownKey).onboard).2 }

/-- The contract is presented with whatever key the vehicle's own key decrypts. -/
theorem exists_presents {ownKey key : PrivateKey}
    (decrypted : KeyTransport.decrypt Suite.standard content.encryptedPrivateKey.value ownKey
      content.dhPublicKey.value = .ok key) :
    ∃ next, Turn.process equipment 0 .certificateInstallation message (recordedSession ownKey) =
      .ok (.next next) (sessionGiven ownKey key) := by
  obtain ⟨verified, decryptedKey⟩ :=
    @isAccepted (recordedSession ownKey).onboard.1 ownKey key
      (Directory.loadCertificate_of_get? rfl) (Directory.loadKey_of_get? rfl) decrypted
  exact ⟨_, Turn.process_certificateInstallation_eq_ok.mpr ⟨content, _, rfl, rfl,
    Turn.certificateInstallation_eq_ok.mpr
      ⟨key, "C", verified, decryptedKey, rfl, rfl, commonName_eq_ok, rfl⟩⟩⟩

/-- The answer of a station to the contract. -/
def challenge : PaymentDetailsRes where
  responseCode := .ok
  genChallenge := List.replicate 16 0x00
  timeStamp := 0

/-- The answer as a message. -/
def challengeMessage : Message where
  header := { sessionId := SessionId.unassigned, signature := none }
  body := .response (.paymentDetails challenge)

/-- The session goes on to ask for leave, with the installed contract. -/
theorem exists_asks :
    ∃ asks answered, Turn.process equipment 0 .paymentDetails challengeMessage
      (sessionGiven commonKey commonKey) = .ok (.next asks) answered := by
  have kept : (Onboard.storeContract Suite.standard chain commonKey
      (recordedSession commonKey).onboard.1).1 = .ok () := rfl
  have stored := (Onboard.holds_storeContract rfl kept).key
  have signs : equipment.credentials.sign (sessionGiven commonKey commonKey).onboard
      [challenge.signedAnswer] .contractLeaf =
        .ok (Signature.create Suite.standard [challenge.signedAnswer] commonKey) :=
    Directory.sign_eq_ok.mpr ⟨commonKey, stored, rfl⟩
  exact ⟨_, _, Turn.process_eq_ok.mpr ⟨_, rfl,
    Turn.next_eq_ok.mpr (Turn.paymentDetails_eq_ok.mpr ⟨_, signs, rfl, rfl⟩)⟩⟩

/-- The contract is delivered with its key, and leave is asked for with a request that is verified
with the certificate. -/
theorem contract_verifies :
    ∃ next asks answered,
      Turn.process equipment 0 .certificateInstallation message (recordedSession commonKey) =
        .ok (.next next) (sessionGiven commonKey commonKey) ∧
      Certificate.IsFor Suite.standard commonKey chain.certificate ∧
      (Onboard.vehicle Suite.standard).KeepsKey Suite.standard Onboard.directory
        (recordedSession commonKey).onboard.1 ∧
      Suite.standard.Accepts commonKey
        (Json.Wire.write (Signature.infoFor Suite.standard [challenge.signedAnswer])) ∧
      Turn.process equipment 0 .paymentDetails challengeMessage
        (sessionGiven commonKey commonKey) = .ok (.next asks) answered ∧
      asks.message.VerifiesWith Suite.standard chain.certificate := by
  obtain ⟨next, presents⟩ := exists_presents decrypt_eq_ok
  obtain ⟨asks, answered, answers⟩ := exists_asks
  have isFor : Certificate.IsFor Suite.standard commonKey chain.certificate := by
    decide +kernel
  have keeps : (Onboard.vehicle Suite.standard).KeepsKey Suite.standard Onboard.directory
      (recordedSession commonKey).onboard.1 :=
    Onboard.keepsKey rfl
  have accepts : Suite.standard.Accepts commonKey
      (Json.Wire.write (Signature.infoFor Suite.standard [challenge.signedAnswer])) := by
    decide +kernel
  obtain ⟨content, key, _, body_eq, -, given, -, verifies⟩ :=
    Turn.installed_together Suite.standard (Onboard.vehicle Suite.standard) Onboard.directory 0
      message (recordedSession commonKey) (sessionGiven commonKey commonKey) next presents
  cases body_eq
  obtain ⟨-, rfl⟩ := Prod.mk.inj (List.singleton_inj.mp given)
  exact ⟨next, asks, answered, presents, isFor, keeps, accepts, answers,
    verifies isFor keeps _ _ _ 0 _ challenge rfl rfl accepts answers⟩

end StoredDelivery

/-! ## A contract with another key -/

/-- Whatever chain and key a vehicle is given before it presents a contract, the certificate would
be for the key. -/
def Turn.InstallsMatching (suite : Suite) (message : Message)
    (session : Session (Onboard × List (CertificateChain × PrivateKey))) : Prop :=
  ∀ next after,
    process (Equipment.recording suite (Onboard.vehicle suite) Onboard.directory) 0
        .certificateInstallation message session = .ok (.next next) after →
      ∀ chain key, after.onboard.2 = session.onboard.2 ++ [(chain, key)] →
        Certificate.IsFor suite key chain.certificate

namespace StoredDelivery

/-- The key of a vehicle that the delivery is not meant for. -/
def strangerKey : PrivateKey := ⟨3, by decide, by decide⟩

/-- What that vehicle decrypts. -/
def strayKey : PrivateKey where
  scalar := 0x51e56bb3b5a18170c790089e727295f087b358ea5dc238211f2f8d9ae39a26d8
  pos := by decide
  lt_order := by decide

theorem decrypt_stranger_eq_ok :
    KeyTransport.decrypt Suite.standard content.encryptedPrivateKey.value strangerKey
      content.dhPublicKey.value = .ok strayKey := by
  decide +kernel

end StoredDelivery

/-- A vehicle that the delivery is not meant for installs the certificate with a key that is nobody's
and presents it. -/
theorem Turn.not_installsMatching :
    ¬ InstallsMatching Suite.standard StoredDelivery.message
        (StoredDelivery.recordedSession StoredDelivery.strangerKey) := by
  intro matching
  obtain ⟨next, presents⟩ :=
    StoredDelivery.exists_presents StoredDelivery.decrypt_stranger_eq_ok
  have isFor := matching next _ presents StoredDelivery.chain StoredDelivery.strayKey rfl
  exact absurd isFor (by decide +kernel)

end PlugAndCharge
