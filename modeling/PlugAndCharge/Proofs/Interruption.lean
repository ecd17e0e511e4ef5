import PlugAndCharge.Proofs.Storage

/-!
# Interrupted installations

An installation that fails before the vehicle begins to store the contract leaves everything as it
was.  From then on nothing is taken back.  A contract is stored file by file, and a write that fails
leaves the files before it new and those after it old.  The name in the new certificate is read only
once the contract has been stored, and if it cannot be read the session fails with the new contract
in place of the old one.
-/

namespace PlugAndCharge

open P256 (PrivateKey)

/-! ## Failing turns -/

namespace Turn

variable {ω : Type} {equipment : Equipment ω} {now : Milliseconds} {session after : Session ω}
  {error : SessionError}

/-- An installation fails because the delivery is not verified or its key not decrypted, because the
vehicle does not keep the contract, or because the name in it cannot be read. -/
theorem certificateInstallation_eq_error {signature : Option Signature}
    {content : CertificateInstallationRes} :
    certificateInstallation equipment signature content session = .error error after ↔
      (∃ fault, content.verify signature equipment.credentials session.onboard = .error fault ∧
        error = .ofPki .verifyingInstallation fault ∧ after = session) ∨
      (content.verify signature equipment.credentials session.onboard = .ok () ∧
        ((∃ fault, equipment.credentials.decryptKey session.onboard
              content.encryptedPrivateKey.value .oemLeaf content.dhPublicKey.value =
                .error fault ∧
            error = .ofPki .decryptingContractKey fault ∧ after = session) ∨
          ∃ key, equipment.credentials.decryptKey session.onboard
              content.encryptedPrivateKey.value .oemLeaf content.dhPublicKey.value = .ok key ∧
            after = { session with
              onboard :=
                (equipment.vehicle.storeContract content.contractChain key session.onboard).2 } ∧
            ((∃ fault,
                (equipment.vehicle.storeContract content.contractChain key session.onboard).1 =
                  .error fault ∧
                error = .vehicle fault) ∨
              ((equipment.vehicle.storeContract content.contractChain key session.onboard).1 =
                  .ok () ∧
                ∃ fault, equipment.credentials.commonName after.onboard
                    content.contractChain.certificate = .error fault ∧
                  error = .ofPki .readingEmaid fault)))) := by
  simp only [certificateInstallation, bind_eq_error, useCredentials_eq_error,
    useCredentials_eq_ok, act_eq_error, act_eq_ok]
  constructor
  · rintro (refused | ⟨⟨⟩, _, ⟨verified, rfl⟩, undecrypted | ⟨key, _, ⟨decrypted, rfl⟩, notKept |
      ⟨⟨⟩, _, ⟨kept, rfl⟩, unnamed | ⟨_, _, _, ⟨⟩⟩⟩⟩⟩)
    · exact .inl refused
    · exact .inr ⟨verified, .inl undecrypted⟩
    · obtain ⟨fault, notKept, error_eq, after_eq⟩ := notKept
      exact .inr ⟨verified, .inr ⟨key, decrypted, after_eq, .inl ⟨fault, notKept, error_eq⟩⟩⟩
    · obtain ⟨fault, unnamed, error_eq, rfl⟩ := unnamed
      exact .inr ⟨verified, .inr ⟨key, decrypted, rfl, .inr ⟨kept, fault, unnamed, error_eq⟩⟩⟩
  · rintro (refused | ⟨verified, undecrypted | ⟨key, decrypted, rfl, ⟨fault, notKept, error_eq⟩ |
      ⟨kept, fault, unnamed, error_eq⟩⟩⟩)
    · exact .inl refused
    · exact .inr ⟨(), session, ⟨verified, rfl⟩, .inl undecrypted⟩
    · exact .inr ⟨(), session, ⟨verified, rfl⟩, .inr ⟨key, session, ⟨decrypted, rfl⟩,
        .inl ⟨fault, notKept, error_eq, rfl⟩⟩⟩
    · exact .inr ⟨(), session, ⟨verified, rfl⟩, .inr ⟨key, session, ⟨decrypted, rfl⟩,
        .inr ⟨(), _, ⟨kept, rfl⟩, .inl ⟨fault, unnamed, error_eq, rfl⟩⟩⟩⟩

/-- While a delivery is awaited, a message is refused, or it is a delivery that is not installed. -/
theorem process_certificateInstallation_eq_error {message : Message} :
    process equipment now .certificateInstallation message session = .error error after ↔
      (session.context.validate .certificateInstallation message = .error error ∧
        after = session) ∨
      ∃ content,
        session.context.validate .certificateInstallation message =
            .ok (.certificateInstallation content) ∧
          certificateInstallation equipment message.header.signature content session =
            .error error after := by
  simp only [process, bind_eq_error, consult_eq_error, consult_eq_ok]
  refine or_congr_right ⟨?_, ?_⟩
  · rintro ⟨response, _, ⟨validated, rfl⟩, failed⟩
    obtain ⟨-, exchange_eq, -⟩ := Context.validate_eq_ok.mp validated
    cases response with
    | certificateInstallation content => exact ⟨content, validated, map_eq_error.mp failed⟩
    | _ => cases exchange_eq
  · rintro ⟨content, validated, failed⟩
    exact ⟨_, session, ⟨validated, rfl⟩, map_eq_error.mpr failed⟩

end Turn

/-! ## What a failure leaves -/

theorem SessionError.ofPki_ne_vehicle (activity : Activity) (fault : PkiError)
    (error : VehicleError) : ofPki activity fault ≠ .vehicle error := by
  unfold ofPki
  split <;> exact SessionError.noConfusion

namespace Onboard

/-- What is on board has come from an interrupted attempt to store a contract. -/
structure Interrupted (before : Onboard) (files : List (Path × Octets)) (error : SessionError)
    (after : Onboard) : Prop where
  error_eq : ∃ fault, error = .vehicle (.storage (.file fault))
  simulator_eq : after.simulator = before.simulator
  directory : before.directory.Interrupted files after.directory

/-- What is on board has the contract whose name cannot be read. -/
structure Unnamed (before : Onboard) (credentials : Credentials Onboard)
    (files : List (Path × Octets)) (contract : InstalledContract) (error : SessionError)
    (after : Onboard) : Prop where
  error_eq : ∃ fault, credentials.commonName after contract.certificate = .error fault ∧
    error = .ofPki .readingEmaid fault
  simulator_eq : after.simulator = { before.simulator with contract := some contract }
  directory : before.directory.Written files after.directory

/-- The simulated vehicle of a session keeps its directory on the standard disk. -/
theorem equipment_eq (suite : Suite) :
    equipment suite =
      { vehicle := vehicleOn .standard suite
        credentials := Directory.credentials suite Onboard.directory } := by
  rw [vehicleOn_standard]
  rfl

variable {disk : Disk} {suite : Suite} {chain : CertificateChain} {key : PrivateKey}
  {onboard : Onboard}

theorem interrupted_storeContractOn {error : VehicleError}
    (failed : (storeContractOn disk suite chain key onboard).1 = .error error) :
    onboard.Interrupted (Directory.contractFiles suite chain key) (.vehicle error)
      (storeContractOn disk suite chain key onboard).2 := by
  obtain ⟨_, rfl, notWritten, onboard_eq⟩ := storeContractOn_of_error failed
  obtain ⟨⟨fault, rfl⟩, interrupted⟩ :=
    Disk.interrupted_storeAll (Directory.nodup_contractFiles suite chain key) notWritten
  rw [onboard_eq]
  exact ⟨⟨fault, rfl⟩, rfl, interrupted⟩

theorem unnamed_storeContractOn {credentials : Credentials Onboard} {fault : PkiError}
    (persists : onboard.simulator.persists = true)
    (kept : (storeContractOn disk suite chain key onboard).1 = .ok ())
    (unnamed : credentials.commonName (storeContractOn disk suite chain key onboard).2
      chain.certificate = .error fault) :
    onboard.Unnamed credentials (Directory.contractFiles suite chain key)
      { certificate := chain.certificate, key } (.ofPki .readingEmaid fault)
      (storeContractOn disk suite chain key onboard).2 := by
  obtain ⟨written, onboard_eq⟩ := storeContractOn_of_ok persists kept
  have isWritten :=
    Disk.written_storeAll (Directory.nodup_contractFiles suite chain key) written
  refine ⟨⟨fault, unnamed, rfl⟩, ?_, ?_⟩
  · rw [onboard_eq]
  · rw [onboard_eq]
    exact isWritten

end Onboard

/-- An installation that fails leaves everything on board as it was, unless the delivery has been
verified and its key decrypted.  Then either a file of the contract could not be written, or the
contract has been stored as a whole and the name in it cannot be read.  The vehicle of a session is
the one with the standard disk (`Onboard.equipment_eq`). -/
theorem Turn.intact_or_stored (disk : Disk) (suite : Suite) (credentials : Credentials Onboard)
    (now : Milliseconds) (message : Message) (session after : Session Onboard)
    (error : SessionError) (persists : session.onboard.simulator.persists = true)
    (failed : process { vehicle := Onboard.vehicleOn disk suite, credentials } now
      .certificateInstallation message session = .error error after) :
    after.onboard = session.onboard ∨
      ∃ content key, message.body = .response (.certificateInstallation content) ∧
        content.verify message.header.signature credentials session.onboard = .ok () ∧
        credentials.decryptKey session.onboard content.encryptedPrivateKey.value .oemLeaf
          content.dhPublicKey.value = .ok key ∧
        let files := Directory.contractFiles suite content.contractChain key
        (session.onboard.Interrupted files error after.onboard ∨
          session.onboard.Unnamed credentials files
            { certificate := content.contractChain.certificate, key } error after.onboard) := by
  obtain ⟨-, rfl⟩ | ⟨content, validated, failed⟩ :=
    process_certificateInstallation_eq_error.mp failed
  · exact .inl rfl
  obtain ⟨body_eq, -⟩ := Context.validate_eq_ok.mp validated
  obtain ⟨_, -, -, rfl⟩ | ⟨verified, ⟨_, -, -, rfl⟩ | ⟨key, decrypted, rfl, stored⟩⟩ :=
    certificateInstallation_eq_error.mp failed
  · exact .inl rfl
  · exact .inl rfl
  refine .inr ⟨content, key, body_eq, verified, decrypted, ?_⟩
  obtain ⟨_, notKept, rfl⟩ | ⟨kept, fault, unnamed, rfl⟩ := stored
  · exact .inl (Onboard.interrupted_storeContractOn notKept)
  · exact .inr (Onboard.unnamed_storeContractOn persists kept unnamed)

/-! ## Contracts that are not kept -/

/-- The contract is the same, with the vehicle and in the directory. -/
def Onboard.SameContract (before after : Onboard) : Prop :=
  after.simulator.contract = before.simulator.contract ∧
    ∀ path ∈ KeySlot.contractLeaf.path ::
        (CertificateSlot.contractLeaf :: contractSubSlots).map CertificateSlot.path,
      after.directory.get? path = before.directory.get? path

/-- Whatever the failure, the contract would be the same after an installation that fails. -/
def Onboard.FailureKeepsContract (suite : Suite) (message : Message) (session : Session Onboard) :
    Prop :=
  session.onboard.simulator.persists = true → ∀ error after,
    Turn.process (equipment suite) 0 .certificateInstallation message session =
      .error error after → session.onboard.SameContract after.onboard

namespace StoredDelivery

open AcceptedDelivery (commonKey)

/-- A directory with the certificate and the key of a former contract, and a folder in place of one
of its intermediate certificates. -/
def blockedDirectory : Directory :=
  { AcceptedDelivery.directory with
    files := (CertificateSlot.contractLeaf.path, [0x30, 0x00]) ::
      (KeySlot.contractLeaf.path, KeyFile.encode Suite.standard formerKey) ::
      AcceptedDelivery.directory.files
    folders := [CertificateSlot.moSubCa1.path] }

/-- A directory with a former contract. -/
def formerDirectory : Directory :=
  (AcceptedDelivery.directory.storeContract Suite.standard chain formerKey).2

/-- The folder keeps the intermediate certificate from being written, once the leaf has been, and
with it the key. -/
theorem isInterrupted :
    Turn.process (Onboard.equipment Suite.standard) 0 .certificateInstallation message
        (sessionWith blockedDirectory) =
      .error
        (.vehicle
          (.storage (.file (.io (blockedDirectory.fullPath CertificateSlot.moSubCa1.path)))))
        { sessionWith blockedDirectory with
          onboard := (Onboard.storeContract Suite.standard chain commonKey
            (sessionWith blockedDirectory).onboard).2 } := by
  obtain ⟨verified, decrypted⟩ :=
    @isAccepted (sessionWith blockedDirectory).onboard commonKey commonKey
      (Directory.loadCertificate_of_get? rfl) (Directory.loadKey_of_get? rfl) decrypt_eq_ok
  have notInstalled := Turn.certificateInstallation_eq_error.mpr
    (.inr ⟨verified, .inr ⟨commonKey, decrypted, rfl, .inl ⟨_, rfl, rfl⟩⟩⟩)
  exact Turn.process_certificateInstallation_eq_error.mpr (.inr ⟨content, rfl, notInstalled⟩)

/-- The installation has been interrupted. -/
theorem blocked_is_interrupted :
    (sessionWith blockedDirectory).onboard.simulator.persists = true ∧
      ∃ error after content key,
        Turn.process
            { vehicle := Onboard.vehicleOn .standard Suite.standard
              credentials := Directory.credentials Suite.standard Onboard.directory } 0
            .certificateInstallation message (sessionWith blockedDirectory) = .error error after ∧
          message.body = .response (.certificateInstallation content) ∧
          (sessionWith blockedDirectory).onboard.Interrupted
            (Directory.contractFiles Suite.standard content.contractChain key) error
            after.onboard := by
  have failed := isInterrupted
  rw [Onboard.equipment_eq] at failed
  obtain unchanged | ⟨content, key, body_eq, -, -, interrupted | unnamed⟩ :=
    Turn.intact_or_stored .standard Suite.standard _ 0 message _ _ _ rfl failed
  · have sameLeaf : some chain.certificate = some [0x30, 0x00] :=
      congrArg (fun onboard => onboard.directory.get? CertificateSlot.contractLeaf.path) unchanged
    exact absurd sameLeaf (by decide +kernel)
  · exact ⟨rfl, _, _, content, key, failed, body_eq, interrupted⟩
  · obtain ⟨fault, -, error_eq⟩ := unnamed.error_eq
    exact absurd error_eq.symm (SessionError.ofPki_ne_vehicle _ _ _)

end StoredDelivery

namespace AcceptedDelivery

/-- Vehicles with the root and the key of the delivery accept it. -/
theorem isVerified {onboard : Onboard}
    (hasRoot : onboard.directory.loadCertificate .v2gRoot = directory.loadCertificate .v2gRoot)
    (hasKey : onboard.directory.loadKey Suite.standard .oemLeaf =
      directory.loadKey Suite.standard .oemLeaf) :
    content.verify message.header.signature (Onboard.equipment Suite.standard).credentials
        onboard = .ok () ∧
      ∃ key, onboard.directory.decryptKey Suite.standard content.encryptedPrivateKey.value
        .oemLeaf content.dhPublicKey.value = .ok key := by
  obtain unchanged | ⟨_, ⟨⟩, came⟩ :=
    Turn.onboard_process_certificateInstallation message session
  · exact absurd (congrArg Prod.snd unchanged) isGiven
  obtain unchanged | ⟨key, verified, decrypted, -⟩ :=
    Turn.onboard_certificateInstallation message.header.signature content session
  · exact absurd (congrArg Prod.snd (came.trans unchanged)) isGiven
  constructor
  · obtain ⟨signature, chainId, emaidId, isSigned, hasChainId, hasEmaidId, checked⟩ :=
      CertificateInstallationRes.verify_eq_ok.mp verified
    obtain ⟨root, signer, loaded, path, accepted⟩ := Directory.verify_eq_ok.mp checked
    refine CertificateInstallationRes.verify_eq_ok.mpr
      ⟨signature, chainId, emaidId, isSigned, hasChainId, hasEmaidId, ?_⟩
    exact Directory.verify_eq_ok.mpr ⟨root, signer, hasRoot.trans loaded, path, accepted⟩
  · obtain ⟨ownKey, loaded, decryptedKey⟩ := Directory.decryptKey_eq_ok.mp decrypted
    exact ⟨key, Directory.decryptKey_eq_ok.mpr ⟨ownKey, hasKey.trans loaded, decryptedKey⟩⟩

/-- The new contract is stored in place of the former one before its name is found to be
unreadable. -/
theorem isUnnamed :
    ∃ key, Turn.process (Onboard.equipment Suite.standard) 0 .certificateInstallation message
        (StoredDelivery.sessionWith StoredDelivery.formerDirectory) =
      .error (.ofPki .readingEmaid (.invalidCertificate .unreadable))
        { StoredDelivery.sessionWith StoredDelivery.formerDirectory with
          onboard := (Onboard.storeContract Suite.standard content.contractChain key
            (StoredDelivery.sessionWith StoredDelivery.formerDirectory).onboard).2 } := by
  have sameKey : StoredDelivery.formerDirectory.loadKey Suite.standard .oemLeaf =
      directory.loadKey Suite.standard .oemLeaf :=
    (Directory.loadKey_of_get? rfl).trans (Directory.loadKey_of_get? rfl).symm
  obtain ⟨verified, key, decrypted⟩ :=
    @isVerified (StoredDelivery.sessionWith StoredDelivery.formerDirectory).onboard rfl sameKey
  have unnamed : Certificate.commonName content.contractChain.certificate =
      .error (.invalidCertificate .unreadable) := by
    decide +kernel
  have notInstalled := Turn.certificateInstallation_eq_error.mpr
    (.inr ⟨verified, .inr ⟨key, decrypted, rfl, .inr ⟨rfl, _, unnamed, rfl⟩⟩⟩)
  exact ⟨key, Turn.process_certificateInstallation_eq_error.mpr
    (.inr ⟨content, rfl, notInstalled⟩)⟩

end AcceptedDelivery

/-- Installations that fail have replaced the certificate of a former contract: one that did
not come to its key, and one whose new certificate has a name that cannot be read. -/
theorem Onboard.not_failureKeepsContract :
    ¬ FailureKeepsContract Suite.standard StoredDelivery.message
        (StoredDelivery.sessionWith StoredDelivery.blockedDirectory) ∧
      ¬ FailureKeepsContract Suite.standard AcceptedDelivery.message
        (StoredDelivery.sessionWith StoredDelivery.formerDirectory) := by
  obtain ⟨key, unnamed⟩ := AcceptedDelivery.isUnnamed
  refine ⟨fun keeps => ?_, fun keeps => ?_⟩
  · have same := keeps rfl _ _ StoredDelivery.isInterrupted
    have sameLeaf : some StoredDelivery.chain.certificate = some [0x30, 0x00] :=
      same.2 CertificateSlot.contractLeaf.path (by decide)
    exact absurd sameLeaf (by decide +kernel)
  · have same := keeps rfl _ _ unnamed
    have sameLeaf : some [0x30, 0x00] = some StoredDelivery.chain.certificate :=
      same.2 CertificateSlot.contractLeaf.path (by decide)
    exact absurd sameLeaf (by decide +kernel)

end PlugAndCharge
