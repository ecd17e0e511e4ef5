import PlugAndCharge.Proofs.Leave
import PlugAndCharge.Proofs.Storage

/-!
# Renewed contracts

A contract that a session installs is the one that the session presents and signs with.  The key
goes from the delivery to a file, over whatever key was there, and back from it with each request
that is signed; nothing writes to the file in between.
-/

namespace PlugAndCharge

open P256 (PrivateKey)

/-- A receipt has an element that the contract key signs. -/
theorem Request.exists_signable_of_meteringReceipt {request : Request}
    (isReceipt : request.exchange = .meteringReceipt) :
    ∃ element, request.signable? = some (element, .contractLeaf) := by
  cases request with
  | meteringReceipt content => exact ⟨_, rfl⟩
  | _ => cases isReceipt

/-! ## After an installation -/

namespace Exchange

/-- The exchanges that may come after a contract has been installed. -/
def afterInstallation : List Exchange :=
  [.paymentDetails, .authorization, .sessionStop] ++ charging

variable {exchange next : Exchange}

theorem mem_afterInstallation_of_follows (isLater : exchange ∈ afterInstallation)
    (follows : next ∈ exchange.followers) : next ∈ afterInstallation := by
  cases exchange <;> grind [afterInstallation, charging, followers]

theorem ne_certificateInstallation (isLater : exchange ∈ afterInstallation) :
    exchange ≠ .certificateInstallation := by
  rintro rfl
  simp [afterInstallation, charging] at isLater

end Exchange

namespace Scenario

variable {scenario : Scenario} {front back : List (Passage Onboard)}
  {first second passage : Passage Onboard}

/-- The directory is written to only while a contract is delivered. -/
theorem directory_of_leads (leads : first.Leads scenario.equipment second)
    (notDelivered : first.step.exchange ≠ .certificateInstallation) :
    second.session.onboard.directory = first.session.onboard.directory := by
  have vehicle : scenario.equipment.vehicle.Maintains
      (·.directory = first.session.onboard.directory) :=
    ⟨fun _ _ same => same, fun _ same => same⟩
  rw [leads.onboard_eq]
  refine Passage.onboard_result (·.directory = first.session.onboard.directory) vehicle
    (fun delivered => absurd delivered notDelivered) ?_
  unfold Turn.onceAsked
  split <;> rfl

/-- A vehicle that persists contracts does so throughout. -/
theorem persists_passages (persists : scenario.onboard.simulator.persists = true) :
    ∀ passage ∈ scenario.passages, passage.session.onboard.simulator.persists = true := by
  refine (scenario.onboard_maintained (·.simulator.persists = true) persists ?_ ?_).1
  · intro onboard persists
    obtain ⟨loopsDone, simulator_eq⟩ := onboard.simulator.exists_continueCharging_eq
    exact (congrArg Simulator.persists simulator_eq).trans persists
  · intro _ _ _ chain key onboard persists
    obtain ⟨contract, directory, onboard_eq⟩ :=
      onboard.exists_storeContract_eq scenario.suite chain key
    exact (congrArg (·.simulator.persists) onboard_eq).trans persists

/-- What may only come after a delivery is followed by the same, with the directory as it is. -/
theorem directory_later (shape : scenario.passages = front ++ passage :: back)
    (isLater : passage.step.exchange ∈ Exchange.afterInstallation) :
    ∀ later ∈ back, later.step.exchange ∈ Exchange.afterInstallation ∧
      later.session.onboard.directory = passage.session.onboard.directory := by
  refine Run.forall_later _ _ _ _ shape ⟨isLater, rfl⟩ ?_
  rintro first second leads ⟨isLater, same⟩
  refine ⟨Exchange.mem_afterInstallation_of_follows isLater leads.follows.exchange_mem, ?_⟩
  rw [directory_of_leads leads (Exchange.ne_certificateInstallation isLater), same]

/-- Whatever comes after a delivery finds the directory as the delivery has left it. -/
theorem directory_afterInstallation (shape : scenario.passages = front ++ passage :: back)
    (delivers : passage.step.exchange = .certificateInstallation) {next : Step}
    {after : Session Onboard}
    (installed : passage.result scenario.equipment = .ok (.next next) after) :
    ∀ later ∈ back, later.session.onboard.directory = after.onboard.directory := by
  cases back with
  | nil => exact fun _ isLater => absurd isLater List.not_mem_nil
  | cons presents rest =>
      have leads := leads_of_passages_eq shape
      have presented : presents.step.exchange = .paymentDetails := by
        simpa [delivers, Exchange.followers] using leads.follows.exchange_mem
      have isLater : presents.step.exchange ∈ Exchange.afterInstallation := by
        simp [presented, Exchange.afterInstallation]
      have presents_eq : presents.session.onboard = after.onboard := by
        rw [leads.onboard_eq, installed]
        rfl
      rw [List.append_cons] at shape
      intro later isBack
      rw [← presents_eq]
      obtain rfl | isRest := List.mem_cons.mp isBack
      · rfl
      · exact (directory_later shape isLater later isRest).2

/-- A request that the contract key signs is verified under the public half of the key that is
stored when it is sent. -/
theorem verifiesUnder_of_signable
    (credentials_eq : scenario.credentials = Directory.credentials scenario.suite Onboard.directory)
    (accepts : ∀ key octets, scenario.suite.Accepts key octets)
    (isPassage : passage ∈ scenario.passages) {element : SignedElement}
    (signable : passage.step.request.signable? = some (element, .contractLeaf)) {key : PrivateKey}
    (stored : passage.session.onboard.directory.loadKey scenario.suite .contractLeaf = .ok key) :
    passage.step.message.VerifiesUnder scenario.suite (scenario.suite.publicPoint key) := by
  have isSigned := (scenario.sends_passages passage isPassage).isSigned
  rw [equipment, credentials_eq] at isSigned
  exact isSigned.verifiesUnder signable stored (accepts key _)

/-- Whatever may only come after a delivered contract does come after it. -/
theorem mem_later (shape : scenario.passages = front ++ passage :: back)
    (delivers : passage.step.exchange = .certificateInstallation) {other : Passage Onboard}
    (isPassage : other ∈ scenario.passages)
    (isLater : other.step.exchange ∈ Exchange.afterInstallation) : other ∈ back := by
  rw [shape, List.mem_append, List.mem_cons] at isPassage
  -- If it came before the delivery, the delivery would be one of those that come after a delivery.
  obtain isEarlier | rfl | isLater := isPassage
  · obtain ⟨before, between, rfl⟩ := List.append_of_mem isEarlier
    rw [List.append_assoc, List.cons_append] at shape
    have delivered := (directory_later shape isLater passage
      (List.mem_append_right _ List.mem_cons_self)).1
    exact absurd delivers (Exchange.ne_certificateInstallation delivered)
  · exact absurd delivers (Exchange.ne_certificateInstallation isLater)
  · exact isLater

/-- The contract that is delivered is the one that the directory holds afterwards. -/
theorem holds_of_installed
    (credentials_eq : scenario.credentials = Directory.credentials scenario.suite Onboard.directory)
    (persists : scenario.onboard.simulator.persists = true)
    (isPassage : passage ∈ scenario.passages) {content : CertificateInstallationRes}
    (accepted : passage.accepted? = some (.certificateInstallation content)) {next : Step}
    {after : Session Onboard}
    (installed : passage.result scenario.equipment = .ok (.next next) after) :
    ∃ key emaid,
      passage.session.onboard.directory.decryptKey scenario.suite
          content.encryptedPrivateKey.value .oemLeaf content.dhPublicKey.value = .ok key ∧
        after.onboard.directory.Holds scenario.suite content.contractChain key ∧
        Certificate.commonName content.contractChain.certificate = .ok emaid ∧
        next.request = .paymentDetails
          { emaid, contractChain := { content.contractChain with id := none } } := by
  obtain ⟨header, result_eq⟩ := Passage.exists_result_eq_of_accepted accepted
  have equipment_eq : scenario.equipment = Onboard.equipment scenario.suite := by
    rw [equipment, credentials_eq, Onboard.equipment]
  rw [result_eq, equipment_eq] at installed
  exact Turn.holds_of_certificateInstallation (persists_passages persists passage isPassage)
    (Turn.next_eq_ok.mp installed)

/-- A contract that is installed is in use from then on, whatever the directory held before.  The
request after the delivery presents the delivered certificates under the name in the first of them.
The request for leave after that, and every receipt of the session, is verified under the public
half of the delivered key.  This asks of the suite that it accepts what it signs. -/
theorem installed_key_signs (scenario : Scenario)
    (credentials_eq : scenario.credentials = Directory.credentials scenario.suite Onboard.directory)
    (persists : scenario.onboard.simulator.persists = true)
    (accepts : ∀ key octets, scenario.suite.Accepts key octets)
    {front back : List (Passage Onboard)} {delivery : Passage Onboard}
    (shape : scenario.passages = front ++ delivery :: back)
    {content : CertificateInstallationRes}
    (accepted : delivery.accepted? = some (.certificateInstallation content)) {next : Step}
    {after : Session Onboard}
    (installed : delivery.result scenario.equipment = .ok (.next next) after) :
    scenario.run.sent = scenario.passages.map Passage.sending ∧
      ∃ key emaid,
        delivery.session.onboard.directory.decryptKey scenario.suite
            content.encryptedPrivateKey.value .oemLeaf content.dhPublicKey.value = .ok key ∧
          Certificate.commonName content.contractChain.certificate = .ok emaid ∧
          next.request = .paymentDetails
            { emaid, contractChain := { content.contractChain with id := none } } ∧
          (∀ presents rest, back = presents :: rest →
            presents.step = next ∧
              ∀ asks later, rest = asks :: later →
                asks.step.exchange = .authorization ∧
                  asks.step.message.VerifiesUnder scenario.suite
                    (scenario.suite.publicPoint key)) ∧
          ∀ receipt ∈ scenario.passages, receipt.step.exchange = .meteringReceipt →
            receipt.step.message.VerifiesUnder scenario.suite
              (scenario.suite.publicPoint key) := by
  have isPassage : delivery ∈ scenario.passages := by simp [shape]
  have delivers : delivery.step.exchange = .certificateInstallation :=
    (Passage.exchange_of_accepted accepted).symm
  obtain ⟨key, emaid, decrypted, holds, named, request_eq⟩ :=
    holds_of_installed credentials_eq persists isPassage accepted installed
  have verifies (later : Passage Onboard) (isLater : later ∈ back) {element : SignedElement}
      (signable : later.step.request.signable? = some (element, .contractLeaf)) :
      later.step.message.VerifiesUnder scenario.suite (scenario.suite.publicPoint key) := by
    have isPassage : later ∈ scenario.passages := by simp [shape, isLater]
    refine verifiesUnder_of_signable credentials_eq accepts isPassage signable ?_
    rw [directory_afterInstallation shape delivers installed later isLater]
    exact holds.key
  refine ⟨scenario.sent_run, key, emaid, decrypted, named, request_eq, ?_, ?_⟩
  · rintro presents rest rfl
    obtain ⟨_, led, -⟩ := leads_of_passages_eq shape
    have step_eq : presents.step = next := by
      cases installed.symm.trans led
      rfl
    refine ⟨step_eq, ?_⟩
    rintro asks later rfl
    have presented : presents.step.exchange = .paymentDetails := by
      rw [step_eq, Step.exchange, request_eq]
      rfl
    rw [List.append_cons] at shape
    have leads := leads_of_passages_eq shape
    have asksLeave : asks.step.exchange = .authorization := by
      simpa [presented, Exchange.followers] using leads.follows.exchange_mem
    refine ⟨asksLeave, ?_⟩
    -- Leave is asked for without a signature only after a selection, or once more.
    obtain ⟨selects, -⟩ | ⟨challenge, -, answers⟩ | ⟨asksAgain, -⟩ :=
      leads.authorization_cases asksLeave
    · cases presented.symm.trans selects
    · exact verifies asks (by simp) (by rw [answers.1]; rfl)
    · cases presented.symm.trans asksAgain
  · intro receipt isReceipt gives
    obtain ⟨element, signable⟩ := Request.exists_signable_of_meteringReceipt gives
    have isLater : receipt.step.exchange ∈ Exchange.afterInstallation := by
      simp [gives, Exchange.afterInstallation, Exchange.charging]
    exact verifies receipt (mem_later shape delivers isReceipt isLater) signable

/-! ## A contract in the place of a former one -/

open AcceptedDelivery (commonKey)
open StoredDelivery (formerKey)

/-- A protected session in which a contract takes the place of a former one, up to a receipt. -/
def contractRenewed : Scenario :=
  { contractRequested with
    onboard :=
      { simulator :=
          Simulator.start { VehicleSettings.standard with certInstallNeeded := true } true
        directory :=
          { contractRequested.onboard.directory with
            files := (KeySlot.contractLeaf.path, KeyFile.encode Suite.selfAccepting formerKey) ::
              contractRequested.onboard.directory.files } }
    replies := contractRequested.replies ++
      .arrival (.ok StoredDelivery.message) 0 ::
      (ofResponses .acThreePhaseCore
        (.paymentDetails {
          responseCode := .ok
          genChallenge := List.replicate 16 0x00
          timeStamp := 0 } ::
        (responsesUpToPower .acThreePhaseCore).drop 3 ++
        [.chargingStatus {
          responseCode := .ok
          evseId := ""
          scheduleTupleId := 1
          maxCurrent := none
          meterInfo := some meterInfo
          receiptRequired := some true
          acStatus :=
            { notificationMaxDelay := 0, notification := .none, rcd := false } }])).replies }

/-- The receipt of the session. -/
def renewedReceipt : MeteringReceiptReq where
  id := Turn.signedElementId
  sessionId := SessionId.unassigned
  scheduleTupleId := some 1
  meterInfo := meterInfo

theorem exists_delivery_and_receipt :
    ∃ delivery ∈ contractRenewed.passages,
      delivery.accepted? = some (.certificateInstallation StoredDelivery.content) ∧
        (delivery.session.onboard.directory.decryptKey Suite.selfAccepting
          StoredDelivery.content.encryptedPrivateKey.value .oemLeaf
          StoredDelivery.content.dhPublicKey.value).toOption = some commonKey ∧
        ∃ receipt ∈ contractRenewed.passages,
          receipt.step.request = .meteringReceipt renewedReceipt := by
  decide +kernel

/-- The receipt is signed with the key that was delivered, not with the one that was there.  The
suite signs it as the standard suite does. -/
theorem contractRenewed_signs :
    (∀ key octets, Suite.selfAccepting.Accepts key octets) ∧
      contractRenewed.onboard.directory.loadKey Suite.selfAccepting .contractLeaf =
        .ok formerKey ∧
      Suite.standard.Accepts commonKey
        (Json.Wire.write (Signature.infoFor Suite.standard
          [.ofValue Turn.signedElementId renewedReceipt])) ∧
      ∃ receipt ∈ contractRenewed.passages,
        receipt.step.request = .meteringReceipt renewedReceipt ∧
          receipt.step.message.VerifiesUnder Suite.selfAccepting
            (Suite.selfAccepting.publicPoint commonKey) := by
  refine ⟨Suite.selfAccepting_accepts, Directory.loadKey_of_get? rfl, by decide +kernel, ?_⟩
  obtain ⟨delivery, isDelivery, accepted, decrypts, receipt, isReceipt, request_eq⟩ :=
    exists_delivery_and_receipt
  have gives : receipt.step.exchange = .meteringReceipt := congrArg Request.exchange request_eq
  obtain ⟨front, back, shape⟩ := List.append_of_mem isDelivery
  have isLater : receipt ∈ back :=
    mem_later shape (Passage.exchange_of_accepted accepted).symm isReceipt
      (by simp [gives, Exchange.afterInstallation, Exchange.charging])
  obtain ⟨presents, rest, rfl⟩ := List.exists_cons_of_ne_nil (List.ne_nil_of_mem isLater)
  obtain ⟨after, installed, -⟩ := leads_of_passages_eq shape
  obtain ⟨-, key, -, decrypted, -, -, -, verifies⟩ :=
    contractRenewed.installed_key_signs rfl rfl Suite.selfAccepting_accepts shape accepted
      installed
  obtain rfl : key = commonKey := by
    have decrypted : delivery.session.onboard.directory.decryptKey Suite.selfAccepting
        StoredDelivery.content.encryptedPrivateKey.value .oemLeaf
        StoredDelivery.content.dhPublicKey.value = .ok key := decrypted
    simpa [decrypted, Except.toOption] using decrypts
  exact ⟨receipt, isReceipt, request_eq, verifies receipt isReceipt gives⟩

end Scenario
end PlugAndCharge
