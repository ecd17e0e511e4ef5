import PlugAndCharge.Proofs.Installation
import PlugAndCharge.Proofs.KeyFile
import PlugAndCharge.Proofs.Reaction

/-!
# Stored contracts

Storing writes one file after the other.  A disk may refuse any of the writes, so a contract that is
stored only in part leaves a file of the new contract beside one of the old; a contract that is
stored as a whole is loaded again, as far as there are places for its certificates.
-/

namespace PlugAndCharge

open P256 (PrivateKey)

/-! ## Files that are written -/

namespace Directory

/-- All of a list of files have been written. -/
def Written (before : Directory) (files : List (Path × Octets)) (after : Directory) : Prop :=
  ∀ path, after.get? path = (files.lookup path).or (before.get? path)

/-- A list of files has been written up to one that could not be: those before it are new, and all
others but the one itself are as they were. -/
def Interrupted (before : Directory) (files : List (Path × Octets)) (after : Directory) : Prop :=
  ∃ written interrupted rest, files = written ++ interrupted :: rest ∧
    ∀ path, path ≠ interrupted.1 → after.get? path = (written.lookup path).or (before.get? path)

end Directory

/-! ## Disks -/

/-- Where a directory is kept.  A write may fail for any reason, and damages no other file if it
does. -/
structure Disk where
  write : Directory → Path → Octets → Except FileError Unit × Directory
  get?_of_ok : ∀ {directory : Directory} {path : Path} {content : Octets},
    (write directory path content).1 = .ok () → ∀ other,
      (write directory path content).2.get? other =
        if other = path then some content else directory.get? other
  get?_of_error : ∀ {directory : Directory} {path : Path} {content : Octets} {error : FileError},
    (write directory path content).1 = .error error → ∀ other, other ≠ path →
      (write directory path content).2.get? other = directory.get? other

namespace Disk

/-- The disk on which a write fails only for a folder or another file in its way, and then changes
nothing. -/
def standard : Disk where
  write directory path content :=
    match directory.write path content with
    | .ok written => (.ok (), written)
    | .error error => (.error error, directory)
  get?_of_ok := by
    intro directory path content
    cases written : directory.write path content with
    | ok after => exact fun _ => Directory.get?_write written
    | error error => exact nofun
  get?_of_error := by
    intro directory path content error
    cases written : directory.write path content with
    | ok after => exact nofun
    | error error => exact fun _ _ _ => rfl

/-- Writes files one after the other, up to the first failure. -/
def storeAll (disk : Disk) (directory : Directory) :
    List (Path × Octets) → Except PkiError Unit × Directory
  | [] => (.ok (), directory)
  | (path, content) :: files =>
    match disk.write directory path content with
    | (.error error, damaged) => (.error (.file error), damaged)
    | (.ok _, written) => disk.storeAll written files

/-- The store writes to the standard disk. -/
theorem storeAll_standard (directory : Directory) (files : List (Path × Octets)) :
    standard.storeAll directory files = directory.storeAll files := by
  induction files generalizing directory with
  | nil => rfl
  | cons file files ih =>
      obtain ⟨path, content⟩ := file
      simp only [storeAll, standard, Directory.storeAll, Directory.store]
      cases written : directory.write path content with
      | ok after => exact ih after
      | error error => rfl

variable {disk : Disk} {directory after : Directory} {files : List (Path × Octets)}

/-- After a write, a later one aside, the file has its content and the others are as they were. -/
private theorem lookup_cons_or {name path : Path} {content : Octets}
    (written : after.get? path = if path = name then some content else directory.get? path)
    (isNew : name ∉ files.map Prod.fst) :
    (files.lookup path).or (after.get? path) =
      (((name, content) :: files).lookup path).or (directory.get? path) := by
  by_cases same : path = name
  · subst same
    have notLater : files.lookup path = none := by
      rw [List.lookup_eq_none_iff]
      intro file isFile
      exact bne_iff_ne.mpr fun same => isNew (List.mem_map.mpr ⟨file, isFile, same.symm⟩)
    rw [written, if_pos rfl, notLater, List.lookup_cons_self, Option.none_or, Option.some_or]
  · rw [written, if_neg same, List.lookup_cons, beq_false_of_ne same]

/-- Files that are stored without a fault have all been written. -/
theorem written_storeAll (distinct : (files.map Prod.fst).Nodup)
    (stored : (disk.storeAll directory files).1 = .ok ()) :
    directory.Written files (disk.storeAll directory files).2 := by
  induction files generalizing directory with
  | nil => exact fun _ => rfl
  | cons file files ih =>
      intro path
      obtain ⟨name, content⟩ := file
      obtain ⟨isNew, distinctRest⟩ := List.nodup_cons.mp distinct
      rw [storeAll] at stored ⊢
      rcases outcome : disk.write directory name content with ⟨error | done, after⟩
      · rw [outcome] at stored
        cases stored
      · have get?_after := disk.get?_of_ok (congrArg Prod.fst outcome) path
        rw [outcome] at stored get?_after
        exact (ih distinctRest stored path).trans (lookup_cons_or get?_after isNew)

/-- Files that are not stored have been written up to one of them. -/
theorem interrupted_storeAll {error : PkiError} (distinct : (files.map Prod.fst).Nodup)
    (failed : (disk.storeAll directory files).1 = .error error) :
    (∃ fault, error = .file fault) ∧
      directory.Interrupted files (disk.storeAll directory files).2 := by
  induction files generalizing directory with
  | nil => cases failed
  | cons file files ih =>
      obtain ⟨name, content⟩ := file
      obtain ⟨isNew, distinctRest⟩ := List.nodup_cons.mp distinct
      rw [storeAll] at failed ⊢
      rcases outcome : disk.write directory name content with ⟨fault | done, after⟩
      · have get?_after := disk.get?_of_error (congrArg Prod.fst outcome)
        rw [outcome] at failed get?_after
        cases failed
        exact ⟨⟨fault, rfl⟩, [], (name, content), files, rfl, get?_after⟩
      · have get?_after := disk.get?_of_ok (congrArg Prod.fst outcome)
        rw [outcome] at failed get?_after
        obtain ⟨isFault, written, interrupted, rest, rfl, isLeft⟩ := ih distinctRest failed
        refine ⟨isFault, (name, content) :: written, interrupted, rest, rfl, ?_⟩
        intro path isOther
        have isNewBefore : name ∉ written.map Prod.fst := fun isLater =>
          isNew (by rw [List.map_append]; exact List.mem_append_left _ isLater)
        exact (isLeft path isOther).trans (lookup_cons_or (get?_after path) isNewBefore)

end Disk

/-! ## Contracts that are stored -/

/-- A chain as far as there are places for its certificates, without its id, which has none. -/
def CertificateChain.stored (chain : CertificateChain) : CertificateChain where
  id := none
  certificate := chain.certificate
  subCertificates := chain.subCertificates.take contractSubSlots.length

/-- A chain with a certificate for each place is stored as a whole. -/
theorem CertificateChain.stored_eq {chain : CertificateChain}
    (fits : chain.subCertificates.length = contractSubSlots.length) :
    chain.stored = { chain with id := none } := by
  rw [stored, List.take_of_length_le fits.le]

namespace Directory

variable {suite : Suite} {directory : Directory} {chain : CertificateChain} {key : PrivateKey}

theorem loadCertificate_of_get? {slot : CertificateSlot} {certificate : Octets}
    (isFile : directory.get? slot.path = some certificate) :
    directory.loadCertificate slot = .ok certificate := by
  rw [loadCertificate, read, isFile]
  rfl

theorem loadKey_of_get? {slot : KeySlot}
    (isFile : directory.get? slot.path = some (KeyFile.encode suite key)) :
    directory.loadKey suite slot = .ok key := by
  have isText : ¬ (Octets.toText? (KeyFile.encode suite key)).isNone = true := by
    rw [Option.isNone_iff_eq_none, ← Option.not_isSome_iff_eq_none, not_not]
    exact KeyFile.isSome_toText?_encode suite key
  rw [loadKey, read, isFile]
  simp only [if_neg isText, KeyFile.decode_encode]

/-- No file of a contract is written twice. -/
theorem nodup_contractFiles (suite : Suite) (chain : CertificateChain) (key : PrivateKey) :
    ((contractFiles suite chain key).map Prod.fst).Nodup := by
  obtain ⟨_, certificate, subCertificates⟩ := chain
  rcases subCertificates with _ | ⟨first, _ | ⟨second, rest⟩⟩ <;>
    simp [contractFiles, contractSubSlots, CertificateSlot.path, KeySlot.path]

theorem written_storeContract (stored : (directory.storeContract suite chain key).1 = .ok ()) :
    directory.Written (contractFiles suite chain key)
      (directory.storeContract suite chain key).2 := by
  rw [storeContract, ← Disk.storeAll_standard] at stored ⊢
  exact Disk.written_storeAll (nodup_contractFiles suite chain key) stored

/-- A directory holds a contract: its certificate, its key, and the certificates above it if there
is one for each place. -/
structure Holds (suite : Suite) (directory : Directory) (chain : CertificateChain)
    (key : PrivateKey) : Prop where
  certificate : directory.loadCertificate .contractLeaf = .ok chain.certificate
  key : directory.loadKey suite .contractLeaf = .ok key
  chain : contractSubSlots.length ≤ chain.subCertificates.length →
    directory.loadChain .contractLeaf contractSubSlots = .ok chain.stored

/-- A directory holds a contract once it has been stored, whatever the directory held before. -/
theorem holds_storeContract (stored : (directory.storeContract suite chain key).1 = .ok ()) :
    (directory.storeContract suite chain key).2.Holds suite chain key := by
  have isFile {path : Path} {content : Octets}
      (isContent : (contractFiles suite chain key).lookup path = some content) :
      (directory.storeContract suite chain key).2.get? path = some content := by
    rw [written_storeContract stored, isContent, Option.some_or]
  have loads (slot : CertificateSlot) {content : Octets}
      (isContent : (contractFiles suite chain key).lookup slot.path = some content) :
      (directory.storeContract suite chain key).2.loadCertificate slot = .ok content :=
    loadCertificate_of_get? (isFile isContent)
  obtain ⟨id, leaf, subCertificates⟩ := chain
  refine ⟨loads .contractLeaf rfl, loadKey_of_get? (isFile ?_), fun enough => ?_⟩
  · rcases subCertificates with _ | ⟨first, _ | ⟨second, rest⟩⟩ <;> rfl
  · obtain ⟨first, second, rest, rfl⟩ : ∃ first second rest,
        subCertificates = first :: second :: rest := by
      rcases subCertificates with _ | ⟨first, _ | ⟨second, rest⟩⟩
      · simp [contractSubSlots] at enough
      · simp [contractSubSlots] at enough
      · exact ⟨first, second, rest, rfl⟩
    simp only [loadChain, contractSubSlots, loadCertificates, loads .contractLeaf rfl,
      loads .moSubCa2 rfl, loads .moSubCa1 rfl]
    rfl

end Directory

/-! ## On board -/

namespace Onboard

/-- Keeps a contract as `Onboard.storeContract` does, with the directory on a disk. -/
def storeContractOn (disk : Disk) (suite : Suite) (chain : CertificateChain) (key : PrivateKey)
    (onboard : Onboard) : Except VehicleError Unit × Onboard :=
  let (stored, directory) :=
    if onboard.simulator.persists then
      disk.storeAll onboard.directory (Directory.contractFiles suite chain key)
    else (.ok (), onboard.directory)
  match stored with
  | .error error => (.error (.storage error), { onboard with directory })
  | .ok _ =>
    (.ok (),
      { simulator :=
          { onboard.simulator with contract := some { certificate := chain.certificate, key } }
        directory })

/-- The simulated vehicle with its directory on a disk. -/
def vehicleOn (disk : Disk) (suite : Suite) : Vehicle Onboard :=
  { vehicle suite with storeContract := storeContractOn disk suite }

theorem storeContractOn_standard (suite : Suite) (chain : CertificateChain) (key : PrivateKey)
    (onboard : Onboard) :
    storeContractOn .standard suite chain key onboard = storeContract suite chain key onboard := by
  rw [storeContractOn, storeContract, Disk.storeAll_standard]
  rfl

/-- The simulated vehicle keeps its directory on the standard disk. -/
theorem vehicleOn_standard (suite : Suite) : vehicleOn .standard suite = vehicle suite := by
  have stores : storeContractOn .standard suite = storeContract suite := by
    funext chain key onboard
    exact storeContractOn_standard suite chain key onboard
  rw [vehicleOn, stores]
  rfl

variable {disk : Disk} {suite : Suite} {chain : CertificateChain} {key : PrivateKey}
  {onboard : Onboard}

/-- A vehicle that persists a contract keeps it only if all its files have been written. -/
theorem storeContractOn_of_ok (persists : onboard.simulator.persists = true)
    (kept : (storeContractOn disk suite chain key onboard).1 = .ok ()) :
    (disk.storeAll onboard.directory (Directory.contractFiles suite chain key)).1 = .ok () ∧
      (storeContractOn disk suite chain key onboard).2 =
        { simulator :=
            { onboard.simulator with contract := some { certificate := chain.certificate, key } }
          directory :=
            (disk.storeAll onboard.directory (Directory.contractFiles suite chain key)).2 } := by
  rw [storeContractOn, if_pos persists] at kept ⊢
  rcases outcome : disk.storeAll onboard.directory (Directory.contractFiles suite chain key) with
    ⟨error | done, directory⟩
  · rw [outcome] at kept
    cases kept
  · exact ⟨rfl, rfl⟩

/-- A vehicle that persists a contract has a directory that holds it. -/
theorem holds_storeContract (persists : onboard.simulator.persists = true)
    (kept : (storeContract suite chain key onboard).1 = .ok ()) :
    (storeContract suite chain key onboard).2.directory.Holds suite chain key := by
  rw [← storeContractOn_standard] at kept ⊢
  obtain ⟨stored, onboard_eq⟩ := storeContractOn_of_ok persists kept
  rw [onboard_eq, Disk.storeAll_standard]
  rw [Disk.storeAll_standard] at stored
  exact Directory.holds_storeContract stored

/-- A vehicle that fails to keep a contract has failed to write one of its files, and is as it was
but for its directory. -/
theorem storeContractOn_of_error {error : VehicleError}
    (failed : (storeContractOn disk suite chain key onboard).1 = .error error) :
    ∃ fault, error = .storage fault ∧
      (disk.storeAll onboard.directory (Directory.contractFiles suite chain key)).1 =
        .error fault ∧
      (storeContractOn disk suite chain key onboard).2 =
        { onboard with
          directory :=
            (disk.storeAll onboard.directory (Directory.contractFiles suite chain key)).2 } := by
  by_cases persists : onboard.simulator.persists = true
  · rw [storeContractOn, if_pos persists] at failed ⊢
    rcases outcome : disk.storeAll onboard.directory (Directory.contractFiles suite chain key) with
      ⟨fault | done, directory⟩
    · rw [outcome] at failed
      cases failed
      exact ⟨fault, rfl, rfl, rfl⟩
    · rw [outcome] at failed
      cases failed
  · rw [storeContractOn, if_neg persists] at failed
    cases failed

end Onboard

/-! ## Presenting a stored contract -/

namespace Turn

open Onboard (equipment)

/-- A stored contract is presented by any later session with its directory. -/
theorem presentContract_of_holds {suite : Suite} {chain : CertificateChain} {key : PrivateKey}
    {later : Session Onboard} {emaid : String}
    (holds : later.onboard.directory.Holds suite chain key)
    (enough : contractSubSlots.length ≤ chain.subCertificates.length)
    (named : Certificate.commonName chain.certificate = .ok emaid) :
    presentContract (equipment suite).credentials later =
      .ok (Step.ofRequest later.context .paymentDetails
        (.paymentDetails { emaid, contractChain := chain.stored })) later :=
  presentContract_eq_ok.mpr ⟨chain.stored, emaid, holds.chain enough, named, rfl, rfl⟩

/-- What is installed is what is held afterwards, with the key that was delivered. -/
theorem holds_of_certificateInstallation {suite : Suite} {signature : Option Signature}
    {content : CertificateInstallationRes} {installing installed : Session Onboard} {sent : Step}
    (persists : installing.onboard.simulator.persists = true)
    (accepted : certificateInstallation (equipment suite) signature content installing =
      .ok sent installed) :
    ∃ key emaid,
      installing.onboard.directory.decryptKey suite content.encryptedPrivateKey.value .oemLeaf
          content.dhPublicKey.value = .ok key ∧
        installed.onboard.directory.Holds suite content.contractChain key ∧
        Certificate.commonName content.contractChain.certificate = .ok emaid ∧
        sent.request = .paymentDetails
          { emaid, contractChain := { content.contractChain with id := none } } := by
  obtain ⟨key, emaid, -, decrypted, kept, rfl, named, rfl⟩ :=
    certificateInstallation_eq_ok.mp accepted
  exact ⟨key, emaid, decrypted, Onboard.holds_storeContract persists kept, named, rfl⟩

end Turn

/-- What is stored is read back, whatever the directory held before: the certificate and the key,
and the certificates above it as far as there are places for them, if there is one for each place.
So a later session presents the contract that a session has installed, and with the request that
that session sent if there are no more certificates than places. -/
theorem Directory.stored_contract_reads_back (suite : Suite) :
    (∀ (directory : Directory) (chain : CertificateChain) (key : PrivateKey),
      (directory.storeContract suite chain key).1 = .ok () →
        (directory.storeContract suite chain key).2.Holds suite chain key) ∧
    ∀ (signature : Option Signature) (content : CertificateInstallationRes)
      (installing installed later : Session Onboard) (sent : Step),
      installing.onboard.simulator.persists = true →
      Turn.certificateInstallation (Onboard.equipment suite) signature content installing =
        .ok sent installed →
      later.onboard.directory = installed.onboard.directory →
      contractSubSlots.length ≤ content.contractChain.subCertificates.length →
        ∃ emaid step,
          Turn.presentContract (Onboard.equipment suite).credentials later = .ok step later ∧
            sent.request = .paymentDetails
              { emaid, contractChain := { content.contractChain with id := none } } ∧
            step.request = .paymentDetails
              { emaid, contractChain := content.contractChain.stored } ∧
            (content.contractChain.subCertificates.length = contractSubSlots.length →
              step.request = sent.request) := by
  refine ⟨fun _ _ _ stored => holds_storeContract stored, ?_⟩
  intro signature content installing installed later sent persists accepted sameDirectory enough
  obtain ⟨key, emaid, -, holds, named, request_eq⟩ :=
    Turn.holds_of_certificateInstallation persists accepted
  rw [← sameDirectory] at holds
  refine ⟨emaid, _, Turn.presentContract_of_holds holds enough named, request_eq, rfl, ?_⟩
  intro fits
  rw [request_eq, ← CertificateChain.stored_eq fits]
  rfl

/-! ## A contract that is stored -/

namespace StoredDelivery

open AcceptedDelivery (commonKey)

/-- A contract with a certificate for each place. -/
def chain : CertificateChain where
  id := some "1"
  certificate := (AcceptedDelivery.certificate "R" "C" 1).encode
  subCertificates := [[0x30, 0x00], [0x31, 0x00]]

/-- The key of a former contract. -/
def formerKey : PrivateKey := ⟨2, by decide, by decide⟩

/-- A delivery of the contract. -/
def content : CertificateInstallationRes :=
  { AcceptedDelivery.content with contractChain := chain }

/-- The signature of the delivery, whose nonce is one. -/
def signature : Signature where
  signedInfo := Signature.infoFor Suite.standard (content.elementsWith "1" "4")
  signatureValue := Octets.ofNat 32 P256.base.x ++ Octets.ofNat 32
    85830908643438145209940732527441163267008856011203661705223443072474114401160

/-- The delivery as a message. -/
def message : Message where
  header := { sessionId := SessionId.unassigned, signature := some signature }
  body := .response (.certificateInstallation content)

theorem verifyChain_eq_ok :
    Certificate.verifyChain Suite.standard content.provisioningChain.certificate
      content.provisioningChain.subCertificates (AcceptedDelivery.certificate "R" "R" 1).encode =
        .ok P256.base := by
  decide +kernel

theorem verify_eq_ok :
    signature.verify Suite.standard (content.elementsWith "1" "4") P256.base = .ok () := by
  decide +kernel

theorem decrypt_eq_ok :
    KeyTransport.decrypt Suite.standard content.encryptedPrivateKey.value commonKey
      content.dhPublicKey.value = .ok commonKey := by
  decide +kernel

theorem commonName_eq_ok : Certificate.commonName chain.certificate = .ok "C" := by
  decide +kernel

/-- Vehicles with the root of the delivery accept it with any key that their own key decrypts. -/
theorem isAccepted {onboard : Onboard} {ownKey key : PrivateKey}
    (hasRoot : onboard.directory.loadCertificate .v2gRoot =
      .ok (AcceptedDelivery.certificate "R" "R" 1).encode)
    (hasKey : onboard.directory.loadKey Suite.standard .oemLeaf = .ok ownKey)
    (decrypted : KeyTransport.decrypt Suite.standard content.encryptedPrivateKey.value ownKey
      content.dhPublicKey.value = .ok key) :
    content.verify (some signature) (Onboard.equipment Suite.standard).credentials onboard =
        .ok () ∧
      onboard.directory.decryptKey Suite.standard content.encryptedPrivateKey.value .oemLeaf
        content.dhPublicKey.value = .ok key := by
  constructor
  · refine CertificateInstallationRes.verify_eq_ok.mpr ⟨signature, "1", "4", rfl, rfl, rfl, ?_⟩
    refine Directory.verify_eq_ok.mpr ⟨_, P256.base, hasRoot, ?_, verify_eq_ok⟩
    exact Certificate.verifyChain_eq_ok.mp verifyChain_eq_ok
  · exact Directory.decryptKey_eq_ok.mpr ⟨ownKey, hasKey, decrypted⟩

/-- A session that awaits the delivery, with a directory. -/
def sessionWith (directory : Directory) : Session Onboard where
  context := Context.start [] true Timeouts.standard none none
  onboard := { simulator := Simulator.start VehicleSettings.standard true, directory }

theorem isStored :
    (AcceptedDelivery.directory.storeContract Suite.standard chain commonKey).1 = .ok () :=
  rfl

theorem isInstalled :
    ∃ sent installed, Turn.certificateInstallation (Onboard.equipment Suite.standard)
      (some signature) content (sessionWith AcceptedDelivery.directory) = .ok sent installed := by
  obtain ⟨verified, decrypted⟩ :=
    @isAccepted (sessionWith AcceptedDelivery.directory).onboard commonKey commonKey
      (Directory.loadCertificate_of_get? rfl) (Directory.loadKey_of_get? rfl) decrypt_eq_ok
  exact ⟨_, _, Turn.certificateInstallation_eq_ok.mpr
    ⟨commonKey, "C", verified, decrypted, rfl, rfl, commonName_eq_ok, rfl⟩⟩

/-- The contract is read back, and presented by a later session as by the one that installed it. -/
theorem reads_back :
    (AcceptedDelivery.directory.storeContract Suite.standard chain commonKey).2.Holds
        Suite.standard chain commonKey ∧
      ∃ sent installed step,
        Turn.certificateInstallation (Onboard.equipment Suite.standard) (some signature) content
            (sessionWith AcceptedDelivery.directory) = .ok sent installed ∧
          Turn.presentContract (Onboard.equipment Suite.standard).credentials installed =
            .ok step installed ∧
          step.request = sent.request := by
  obtain ⟨reads, presents⟩ := Directory.stored_contract_reads_back Suite.standard
  obtain ⟨sent, installed, accepted⟩ := isInstalled
  obtain ⟨_, step, presented, -, -, same⟩ := presents (some signature) content
    (sessionWith AcceptedDelivery.directory) installed installed sent rfl accepted rfl (by decide)
  exact ⟨reads _ chain commonKey isStored, sent, installed, step, accepted, presented, same rfl⟩

end StoredDelivery

/-! ## Chains that do not fit -/

namespace Directory

open AcceptedDelivery (commonKey)

/-- The whole of a chain would be read back with its key. -/
def ReadsBack (suite : Suite) (directory : Directory) (chain : CertificateChain)
    (key : PrivateKey) : Prop :=
  (directory.storeContract suite chain key).1 = .ok () →
    (directory.storeContract suite chain key).2.loadChain .contractLeaf contractSubSlots =
        .ok { chain with id := none } ∧
      (directory.storeContract suite chain key).2.loadKey suite .contractLeaf = .ok key

/-- A directory with a certificate of a former contract. -/
def withFormer : Directory :=
  { empty "" with files := [(CertificateSlot.moSubCa1.path, [0x31, 0x00])] }

/-- A third certificate above the leaf is not read back.  Without a second one nothing is, or that
of a former contract in its place. -/
theorem not_readsBack :
    ¬ (empty "").ReadsBack Suite.standard
        { StoredDelivery.chain with subCertificates := [[0x30, 0x00], [0x31, 0x00], [0x32, 0x00]] }
        commonKey ∧
      ¬ (empty "").ReadsBack Suite.standard
        { StoredDelivery.chain with subCertificates := [[0x30, 0x00]] } commonKey ∧
      ¬ withFormer.ReadsBack Suite.standard
        { StoredDelivery.chain with subCertificates := [[0x30, 0x00]] } commonKey := by
  refine ⟨fun reads => ?_, fun reads => ?_, fun reads => ?_⟩
  · have lost := (reads rfl).1
    cases lost
  · have missing := (reads rfl).1
    cases missing
  · have leftOver := (reads rfl).1
    cases leftOver

end Directory
end PlugAndCharge
