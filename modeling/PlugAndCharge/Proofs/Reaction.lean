import PlugAndCharge.Proofs.Turn
import PlugAndCharge.Session.Protocol

/-!
# What each response leads to

For each part of a session, when it succeeds, with which request and in which session.  Later
modules reason about these equivalences and never open a part itself.
-/

namespace PlugAndCharge

/-! ## Checking responses -/

/-- A response is accepted if it is the awaited one, bears the session's identifier once there is
one, and is no failure. -/
theorem Context.validate_eq_ok {context : Context} {awaited : Exchange} {message : Message}
    {response : Response} :
    context.validate awaited message = .ok response ↔
      message.body = .response response ∧ response.exchange = awaited ∧
        (∀ sessionId ∈ context.sessionId, message.header.sessionId = sessionId) ∧
        response.code.isFailure = false := by
  have own : (∀ sessionId ∈ context.sessionId, message.header.sessionId = sessionId) ↔
      ¬(context.sessionId.any fun sessionId => message.header.sessionId != sessionId) := by
    cases context.sessionId <;> simp
  rw [own]
  unfold Context.validate
  cases message.body with
  | request request => simp
  | response received =>
      by_cases exchange : received.exchange = awaited
      · by_cases foreign : context.sessionId.any fun sessionId =>
            message.header.sessionId != sessionId
        · simp [exchange, foreign]
        · by_cases failure : received.code.isFailure
          · simp only [exchange, foreign, failure]
            grind
          · simp only [exchange, foreign, failure]
            grind
      · grind

/-- The time for a request runs out, or is noted together with what is left of it. -/
theorem Context.noteOngoing_eq_ok {context changed : Context} {kind : Kind}
    {timeout now remaining : Milliseconds} :
    context.noteOngoing kind timeout now = (.ok remaining, changed) ↔
      let started := (context.ongoingSince.or context.issuedAt).getD now
      now - started ≤ context.timeouts.ongoingBudget ∧
        remaining = min timeout (context.timeouts.ongoingBudget - (now - started)) ∧
        changed = { context with ongoingSince := some started } := by
  simp only [Context.noteOngoing]
  split <;> grind

theorem Context.selectedSchedule_eq_ok {context : Context} {schedule : UInt8} :
    context.selectedSchedule = .ok schedule ↔ context.schedule = some schedule := by
  unfold Context.selectedSchedule
  cases context.schedule <;> simp

namespace Context

theorem assignSessionId_eq_ok {context changed : Context} {sessionId : SessionId} :
    context.assignSessionId sessionId = .ok changed ↔
      context.sessionId = none ∧ changed = { context with sessionId := some sessionId } := by
  unfold assignSessionId
  cases context.sessionId <;> simp [eq_comm]

theorem assignEvseId_eq_ok {context changed : Context} {evseId : String} :
    context.assignEvseId evseId = .ok changed ↔
      context.evseId = none ∧ changed = { context with evseId := some evseId } := by
  unfold assignEvseId
  cases context.evseId <;> simp [eq_comm]

/-! ## Offers -/

/-- The way to pay that is chosen from an offer. -/
def optionFrom (context : Context) (content : ServiceDiscoveryRes) : PaymentOption :=
  .choose (context.resume.getD Choices.none).paymentOption content.paymentOptions context.isTls

/-- The mode that an offer has to contain: the resumed one, or else the vehicle's own. -/
def requiredMode (context : Context) (ownMode : EnergyTransferMode) : EnergyTransferMode :=
  (context.resume.getD Choices.none).energyMode.getD ownMode

/-- The service that provides contract certificates, if it is offered and wanted. -/
def certificateService? (context : Context) (content : ServiceDiscoveryRes)
    (certInstallNeeded : Bool) : Option Service :=
  if context.isTls ∧ context.optionFrom content = .contract ∧ certInstallNeeded then
    (content.serviceList.getD []).find? fun service =>
      service.serviceCategory == .contractCertificate
  else none

/-- The context once an offer has been taken. -/
def takeOffer (context : Context) (content : ServiceDiscoveryRes) (ownMode : EnergyTransferMode)
    (certInstallNeeded : Bool) (chargeServiceId : ServiceId) : Context :=
  let settled :=
    { context with resume := none }.settle (context.optionFrom content)
      (context.requiredMode ownMode) chargeServiceId
  match context.certificateService? content certInstallNeeded with
  | some service => settled.selectWithDetails service.serviceId
  | none => settled

/-- Selected services with one more, unless it is among them. -/
def withService (services : List SelectedService) (service : SelectedService) :
    List SelectedService :=
  if services.any fun selected => selected.serviceId == service.serviceId then services
  else services ++ [service]

theorem selectService_eq (context : Context) (service : SelectedService) :
    context.selectService service =
      { context with services := withService context.services service } := by
  unfold selectService withService
  split <;> rfl

/-- An offer that is taken settles the session and leaves the details of at most one service to be
asked for. -/
theorem takeOffer_eq (context : Context) (content : ServiceDiscoveryRes)
    (ownMode : EnergyTransferMode) (certInstallNeeded : Bool) (chargeServiceId : ServiceId) :
    context.takeOffer content ownMode certInstallNeeded chargeServiceId =
      let details :=
        (context.certificateService? content certInstallNeeded).toList.map Service.serviceId
      { context with
        resume := none
        paymentOption := some (context.optionFrom content)
        energyMode := some (context.requiredMode ownMode)
        services :=
          ((chargeServiceId :: details).map SelectedService.plain).foldl withService
            context.services
        pendingDetails := details ++ context.pendingDetails } := by
  unfold takeOffer settle
  cases context.certificateService? content certInstallNeeded with
  | none => simp [selectService_eq]
  | some service => simp [selectWithDetails, selectService_eq]

end Context

namespace Turn

variable {ω : Type} {equipment : Equipment ω} {session after : Session ω} {step : Step}
  {outcome : Outcome} {now : Milliseconds}

/-! ## Setting up -/

theorem nextDetailsOrSelection_eq_ok :
    nextDetailsOrSelection session = .ok step after ↔
      (session.context.pendingDetails = [] ∧ after = session ∧
        step = Step.ofRequest session.context .paymentServiceSelection
          (.paymentServiceSelection session.context.paymentSelection)) ∨
      ∃ serviceId pendingDetails, session.context.pendingDetails = serviceId :: pendingDetails ∧
        after = { session with context := { session.context with pendingDetails } } ∧
        step = Step.ofRequest { session.context with pendingDetails } .serviceDetail
          (.serviceDetail { serviceId }) := by
  simp only [nextDetailsOrSelection, context_bind]
  cases session.context.pendingDetails with
  | nil => simp
  | cons serviceId pendingDetails => simp

theorem sessionSetup_eq_ok {sessionId : SessionId} {content : SessionSetupRes} :
    sessionSetup sessionId content session = .ok step after ↔
      session.context.sessionId = none ∧ session.context.evseId = none ∧
        after = { session with context := { session.context with
          sessionId := some sessionId, evseId := some content.evseId } } ∧
        step = Step.ofRequest after.context .serviceDiscovery
          (.serviceDiscovery { serviceScope := none, serviceCategory := none }) := by
  simp only [sessionSetup, bind_eq_ok, tryUpdate_eq_ok, Context.assignSessionId_eq_ok,
    Context.assignEvseId_eq_ok, send_eq_ok]
  constructor
  · rintro ⟨_, _, ⟨_, ⟨unnamed, rfl⟩, rfl⟩, _, _, ⟨_, ⟨unplaced, rfl⟩, rfl⟩, rfl, rfl⟩
    exact ⟨unnamed, unplaced, rfl, rfl⟩
  · rintro ⟨unnamed, unplaced, rfl, rfl⟩
    exact ⟨(), _, ⟨_, ⟨unnamed, rfl⟩, rfl⟩, (), _, ⟨_, ⟨unplaced, rfl⟩, rfl⟩, rfl, rfl⟩

theorem exists_nextDetailsOrSelection_eq_ok (session : Session ω) :
    ∃ step after, nextDetailsOrSelection session = .ok step after := by
  simp only [nextDetailsOrSelection_eq_ok]
  cases session.context.pendingDetails with
  | nil => exact ⟨_, _, .inl ⟨rfl, rfl, rfl⟩⟩
  | cons serviceId pendingDetails => exact ⟨_, _, .inr ⟨serviceId, pendingDetails, rfl, rfl, rfl⟩⟩

/-- A service that is wanted and found is selected before the session goes on. -/
private theorem select_found (wanted : Prop) [Decidable wanted] (found : Option Service)
    (session : Session ω) :
    (match found with
      | some service =>
        if wanted then do
          update fun context => context.selectWithDetails service.serviceId
          nextDetailsOrSelection
        else nextDetailsOrSelection
      | none => nextDetailsOrSelection : Turn ω Step) session =
      nextDetailsOrSelection
        { session with
          context :=
            match if wanted then found else none with
            | some service => session.context.selectWithDetails service.serviceId
            | none => session.context } := by
  by_cases holds : wanted
  · cases found with
    | none => simp
    | some service => simp [holds]
  · cases found with
    | none => simp
    | some service => simp [holds]

theorem serviceDiscovery_eq_ok {content : ServiceDiscoveryRes} :
    serviceDiscovery equipment content session = .ok step after ↔
      ∃ chargeService, content.chargeService = some chargeService ∧
        session.context.requiredMode (equipment.vehicle.energyMode session.onboard) ∈
          chargeService.supportedModes ∧
        nextDetailsOrSelection
            { session with
              context := session.context.takeOffer content
                (equipment.vehicle.energyMode session.onboard)
                (equipment.vehicle.certInstallNeeded session.onboard)
                chargeService.serviceId } =
          .ok step after := by
  unfold serviceDiscovery
  cases content.chargeService with
  | none => simp
  | some chargeService =>
      simp only [context_bind, update_bind, ask_bind, ite_eq_ok, fail_eq_ok, and_false, false_or,
        not_not, Option.some.injEq, exists_eq_left']
      refine and_congr_right fun _ => iff_of_eq (congrArg (· = EStateM.Result.ok step after) ?_)
      exact select_found (session.context.isTls ∧ session.context.optionFrom content = .contract ∧
        equipment.vehicle.certInstallNeeded session.onboard) _ _

/-- An offer that is taken settles the way to pay and the mode, and uses up the choices to resume. -/
theorem settled_of_serviceDiscovery {content : ServiceDiscoveryRes}
    (responded : serviceDiscovery equipment content session = .ok step after) :
    after.context.resume = none ∧
      after.context.paymentOption = some (session.context.optionFrom content) ∧
      after.context.energyMode = some
        (session.context.requiredMode (equipment.vehicle.energyMode session.onboard)) := by
  obtain ⟨chargeService, -, -, responded⟩ := serviceDiscovery_eq_ok.mp responded
  rw [Context.takeOffer_eq] at responded
  obtain ⟨-, rfl, -⟩ | ⟨_, _, -, rfl, -⟩ := nextDetailsOrSelection_eq_ok.mp responded
  · exact ⟨rfl, rfl, rfl⟩
  · exact ⟨rfl, rfl, rfl⟩

/-- An offer without the required mode uses up the choices to resume, and nothing else. -/
theorem serviceDiscovery_eq_error {content : ServiceDiscoveryRes} {chargeService : ChargeService}
    (offered : content.chargeService = some chargeService)
    (notOffered : session.context.requiredMode (equipment.vehicle.energyMode session.onboard) ∉
      chargeService.supportedModes) :
    serviceDiscovery equipment content session =
      .error
        (.incompatible (.modeNotOffered
          (session.context.requiredMode (equipment.vehicle.energyMode session.onboard))))
        { session with context := { session.context with resume := none } } := by
  unfold serviceDiscovery
  rw [offered]
  rw [Context.requiredMode] at notOffered ⊢
  simp only [context_bind, update_bind, ask_bind]
  rw [if_pos notOffered]
  rfl

theorem requestContract_eq_ok {credentials : Credentials ω} :
    requestContract credentials session = .ok step after ↔
      ∃ certificate rootIds signature,
        let content : CertificateInstallationReq :=
          { id := signedElementId, oemProvisioningCert := certificate,
            rootCertificateIds := rootIds }
        credentials.certificate session.onboard .oemLeaf = .ok certificate ∧
          credentials.rootIds session.onboard = .ok rootIds ∧
          credentials.sign session.onboard [SignedElement.ofValue signedElementId content]
            .oemLeaf = .ok signature ∧
          after = session ∧
          step =
            { Step.ofRequest session.context .certificateInstallation
                (.certificateInstallation content) with
              signature := some signature } := by
  simp only [requestContract, bind_eq_ok, useCredentials_eq_ok, sendSigned_eq_ok]
  constructor
  · rintro ⟨certificate, _, ⟨loaded, rfl⟩, rootIds, _, ⟨named, rfl⟩, signature, signed, rfl, rfl⟩
    exact ⟨certificate, rootIds, signature, loaded, named, signed, rfl, rfl⟩
  · rintro ⟨certificate, rootIds, signature, loaded, named, signed, rfl, rfl⟩
    exact ⟨certificate, _, ⟨loaded, rfl⟩, rootIds, _, ⟨named, rfl⟩, signature, signed, rfl, rfl⟩

theorem presentContract_eq_ok {credentials : Credentials ω} :
    presentContract credentials session = .ok step after ↔
      ∃ contractChain emaid,
        credentials.chain session.onboard .contractLeaf contractSubSlots = .ok contractChain ∧
          credentials.commonName session.onboard contractChain.certificate = .ok emaid ∧
          after = session ∧
          step = Step.ofRequest session.context .paymentDetails
            (.paymentDetails { emaid, contractChain }) := by
  simp only [presentContract, bind_eq_ok, useCredentials_eq_ok, send_eq_ok]
  constructor
  · rintro ⟨contractChain, _, ⟨loaded, rfl⟩, emaid, _, ⟨named, rfl⟩, rfl, rfl⟩
    exact ⟨contractChain, emaid, loaded, named, rfl, rfl⟩
  · rintro ⟨contractChain, emaid, loaded, named, rfl, rfl⟩
    exact ⟨contractChain, _, ⟨loaded, rfl⟩, emaid, _, ⟨named, rfl⟩, rfl, rfl⟩

theorem paymentServiceSelection_eq_ok :
    paymentServiceSelection equipment session = .ok step after ↔
      (session.context.paymentOption ≠ some .contract ∧ after = session ∧
        step = Step.ofRequest session.context .authorization
          (.authorization { id := none, genChallenge := none })) ∨
      (session.context.paymentOption = some .contract ∧
        equipment.vehicle.certInstallNeeded session.onboard = true ∧
        requestContract equipment.credentials session = .ok step after) ∨
      (session.context.paymentOption = some .contract ∧
        equipment.vehicle.certInstallNeeded session.onboard = false ∧
        presentContract equipment.credentials session = .ok step after) := by
  simp only [paymentServiceSelection, context_bind, ask_bind, ite_eq_ok, send_eq_ok, ne_eq,
    not_not, Bool.not_eq_true]
  tauto

/-! ## Contracts -/

theorem certificateInstallation_eq_ok {signature : Option Signature}
    {content : CertificateInstallationRes} :
    certificateInstallation equipment signature content session = .ok step after ↔
      ∃ key emaid,
        content.verify signature equipment.credentials session.onboard = .ok () ∧
          equipment.credentials.decryptKey session.onboard content.encryptedPrivateKey.value
            .oemLeaf content.dhPublicKey.value = .ok key ∧
          (equipment.vehicle.storeContract content.contractChain key session.onboard).1 =
            .ok () ∧
          after = { session with
            onboard :=
              (equipment.vehicle.storeContract content.contractChain key session.onboard).2 } ∧
          equipment.credentials.commonName after.onboard content.contractChain.certificate =
            .ok emaid ∧
          step = Step.ofRequest session.context .paymentDetails
            (.paymentDetails
              { emaid, contractChain := { content.contractChain with id := none } }) := by
  simp only [certificateInstallation, bind_eq_ok, useCredentials_eq_ok, act_eq_ok, send_eq_ok]
  constructor
  · rintro ⟨⟨⟩, _, ⟨verified, rfl⟩, key, _, ⟨decrypted, rfl⟩, ⟨⟩, _, ⟨stored, rfl⟩, emaid, _,
      ⟨named, rfl⟩, rfl, rfl⟩
    exact ⟨key, emaid, verified, decrypted, stored, rfl, named, rfl⟩
  · rintro ⟨key, emaid, verified, decrypted, stored, rfl, named, rfl⟩
    exact ⟨(), _, ⟨verified, rfl⟩, key, _, ⟨decrypted, rfl⟩, (), _, ⟨stored, rfl⟩, emaid, _,
      ⟨named, rfl⟩, rfl, rfl⟩

theorem paymentDetails_eq_ok {content : PaymentDetailsRes} :
    paymentDetails equipment content session = .ok step after ↔
      ∃ signature,
        let request : AuthorizationReq :=
          { id := some signedElementId, genChallenge := some content.genChallenge }
        equipment.credentials.sign session.onboard
            [SignedElement.ofValue signedElementId request] .contractLeaf = .ok signature ∧
          after = session ∧
          step = { Step.ofRequest session.context .authorization (.authorization request) with
            signature := some signature } :=
  sendSigned_eq_ok

/-! ## Leave to charge -/

/-- What a vehicle can take, in the mode that the session has settled on. -/
def chargeParametersOf (equipment : Equipment ω) (session : Session ω) :
    ChargeParameterDiscoveryReq where
  maxEntries := none
  requestedMode :=
    session.context.energyMode.getD
      (equipment.vehicle.chargeParameters session.onboard).energyMode
  acParameters := (equipment.vehicle.chargeParameters session.onboard).ac
  dcParameters := (equipment.vehicle.chargeParameters session.onboard).dc

@[simp] theorem chargeParameterRequest_bind {α : Type}
    (next : ChargeParameterDiscoveryReq → Turn ω α) :
    (chargeParameterRequest equipment >>= next) session =
      next (chargeParametersOf equipment session) session := rfl

theorem sendAgain_eq_ok {awaited : Exchange} {request : Request} :
    sendAgain now awaited request session = .ok step after ↔
      ∃ timeout,
        session.context.noteOngoing (.response request.exchange)
            (session.context.timeouts.forExchange request.exchange) now =
          (.ok timeout, after.context) ∧
        after.onboard = session.onboard ∧
        step = (Step.ofRequest session.context awaited request).asRepetition timeout := by
  simp only [sendAgain, send_bind, bind_eq_ok, alter_eq_ok, pure_eq_ok]
  constructor
  · rintro ⟨timeout, _, ⟨noted, rfl⟩, rfl, rfl⟩
    exact ⟨timeout, Prod.ext noted rfl, rfl, rfl⟩
  · rintro ⟨timeout, noted, kept, rfl⟩
    refine ⟨timeout, after, ⟨congrArg Prod.fst noted, ?_⟩, rfl, rfl⟩
    obtain ⟨context, onboard⟩ := after
    cases kept
    exact congrArg (fun changed => ({ session with context := changed.2 } : Session ω)) noted.symm

theorem authorization_eq_ok {content : AuthorizationRes} :
    authorization equipment now content session = .ok step after ↔
      (content.processing.isFinished = true ∧
        after = { session with context := session.context.noteFinished } ∧
        step = Step.ofRequest after.context .chargeParameterDiscovery
          (.chargeParameterDiscovery (chargeParametersOf equipment after))) ∨
      (content.processing.isFinished = false ∧
        sendAgain now .authorization (.authorization { id := none, genChallenge := none })
          session = .ok step after) := by
  unfold authorization
  cases content.processing.isFinished with
  | true =>
      simp only [reduceIte, update_bind, chargeParameterRequest_bind, send_eq_ok]
      grind
  | false => simp

theorem chargeParameterDiscovery_eq_ok {content : ChargeParameterDiscoveryRes} :
    chargeParameterDiscovery equipment now content session = .ok step after ↔
      (content.processing.isFinished = true ∧
        ∃ selection,
          (equipment.vehicle.chooseSchedule (content.schedules.getD []) session.onboard).1 =
              .ok selection ∧
            after = {
              context := { session.context.noteFinished with
                schedule := some selection.scheduleId }
              onboard :=
                (equipment.vehicle.chooseSchedule (content.schedules.getD [])
                  session.onboard).2 } ∧
            step = Step.ofRequest after.context .powerDelivery (.powerDelivery {
              chargeProgress := selection.chargeProgress
              scheduleTupleId := selection.scheduleId
              chargingProfile := selection.chargingProfile })) ∨
      (content.processing.isFinished = false ∧
        sendAgain now .chargeParameterDiscovery
          (.chargeParameterDiscovery (chargeParametersOf equipment session)) session =
            .ok step after) := by
  unfold chargeParameterDiscovery
  cases content.processing.isFinished with
  | true =>
      simp only [reduceIte, update_bind, bind_eq_ok, act_eq_ok, send_eq_ok]
      grind
  | false => simp

/-! ## Rounds of charging -/

theorem demandCurrent_eq_ok :
    demandCurrent equipment session = .ok step after ↔
      ∃ demand, (equipment.vehicle.currentDemand session.onboard).1 = .ok demand ∧
        after = { session with
          onboard := (equipment.vehicle.currentDemand session.onboard).2 } ∧
        step = Step.ofRequest session.context .currentDemand (.currentDemand demand) := by
  simp only [demandCurrent, bind_eq_ok, act_eq_ok, send_eq_ok]
  grind

theorem nextRound_eq_ok :
    nextRound equipment session = .ok step after ↔
      (session.context.isAc = true ∧ after = session ∧
        step = Step.ofRequest session.context .chargingStatus (.chargingStatus {})) ∨
      (session.context.isAc = false ∧ demandCurrent equipment session = .ok step after) := by
  simp only [nextRound, context_bind, ite_eq_ok, send_eq_ok, Bool.not_eq_true]

theorem changePower_eq_ok {progress : ChargeProgress} :
    changePower progress session = .ok step after ↔
      ∃ schedule, session.context.schedule = some schedule ∧ after = session ∧
        step = Step.ofRequest session.context .powerDelivery (.powerDelivery
          { chargeProgress := progress
            scheduleTupleId := schedule
            chargingProfile := none }) := by
  simp only [changePower, bind_eq_ok, consult_eq_ok, Context.selectedSchedule_eq_ok, send_eq_ok]
  grind

theorem stopCharging_eq_ok {stop : SessionEnd} :
    stopCharging stop session = .ok step after ↔
      changePower .stop { session with context := session.context.requestStop stop } =
        .ok step after := by
  rw [stopCharging, update_bind]

theorem renegotiate_eq_ok :
    renegotiate session = .ok step after ↔
      changePower .renegotiate
          { session with context := { session.context with isRenegotiating := true } } =
        .ok step after := by
  rw [renegotiate, update_bind]

theorem continueOrStop_eq_ok {another : Turn ω Step} :
    continueOrStop equipment another session = .ok step after ↔
      let asked : Session ω :=
        { session with onboard := (equipment.vehicle.continueCharging session.onboard).2 }
      ((equipment.vehicle.continueCharging session.onboard).1 = true ∧
        another asked = .ok step after) ∨
      ((equipment.vehicle.continueCharging session.onboard).1 = false ∧
        stopCharging (if equipment.vehicle.wantsPause asked.onboard then .pause else .terminate)
          asked = .ok step after) := by
  simp only [continueOrStop, choose_bind, ask_bind, ite_eq_ok, Bool.not_eq_true]

theorem sendReceipt_eq_ok {scheduleTupleId : UInt8} {meterInfo : MeterInfo} :
    sendReceipt equipment scheduleTupleId meterInfo session = .ok step after ↔
      ∃ signature,
        let request : MeteringReceiptReq :=
          { id := signedElementId, sessionId := session.context.headerId,
            scheduleTupleId := some scheduleTupleId, meterInfo }
        equipment.credentials.sign session.onboard
            [SignedElement.ofValue signedElementId request] .contractLeaf = .ok signature ∧
          after = session ∧
          step =
            { Step.ofRequest session.context .meteringReceipt (.meteringReceipt request) with
              signature := some signature } := by
  rw [sendReceipt, context_bind, sendSigned_eq_ok]

theorem afterRound_eq_ok {report : RoundReport} {another : Turn ω Step} :
    afterRound equipment report another session = .ok step after ↔
      (report.receiptRequired = true ∧ session.context.isTls = true ∧
        ∃ meterInfo, report.meterInfo = some meterInfo ∧
          sendReceipt equipment report.scheduleTupleId meterInfo session = .ok step after) ∨
      (¬(report.receiptRequired = true ∧ session.context.isTls = true) ∧
        heed report.notification (continueOrStop equipment another) session =
          .ok step after) := by
  simp only [afterRound, context_bind, ite_eq_ok]
  cases report.meterInfo <;> simp [and_assoc]

theorem powerDelivery_eq_ok :
    powerDelivery equipment session = .ok step after ↔
      (∃ stop, session.context.stop = some stop ∧ after = session ∧
        step = Step.ofRequest session.context .sessionStop
          (.sessionStop { chargingSession := stop })) ∨
      (session.context.stop = none ∧ session.context.isRenegotiating = true ∧
        after = { session with
          context := { session.context with isRenegotiating := false } } ∧
        step = Step.ofRequest after.context .chargeParameterDiscovery
          (.chargeParameterDiscovery (chargeParametersOf equipment after))) ∨
      (session.context.stop = none ∧ session.context.isRenegotiating = false ∧
        nextRound equipment session = .ok step after) := by
  simp only [powerDelivery, context_bind]
  cases requested : session.context.stop with
  | some stop => simp
  | none =>
      simp only [ite_eq_ok, update_bind, requested, chargeParameterRequest_bind, send_eq_ok]
      grind

/-! ## The end -/

theorem sessionStop_eq_ok {reason : StopReason} :
    sessionStop session = .ok reason after ↔
      after = { session with
        context := { session.context with stopReason := some reason } } ∧
      reason =
        match session.context.stop with
        | some .pause =>
          StopReason.success "paused" session.context.peer (some session.context.choices)
        | some .terminate | none =>
          StopReason.success "terminated" session.context.peer none := by
  simp only [sessionStop, context_bind, update_bind, pure_eq_ok]
  grind

/-! ## Any response -/

/-- A turn that decides on a request comes out as that request. -/
@[simp] theorem next_eq_ok {turn : Turn ω Step} :
    (Outcome.next <$> turn) session = .ok (.next step) after ↔ turn session = .ok step after := by
  simp

theorem respond_eq_terminated {header : Header} {response : Response} {reason : StopReason} :
    respond equipment now header response session = .ok (.terminated reason) after ↔
      response.exchange = .sessionStop ∧ sessionStop session = .ok reason after := by
  cases response <;> simp [respond, Response.exchange]

theorem process_eq_ok {awaited : Exchange} {message : Message} :
    process equipment now awaited message session = .ok outcome after ↔
      ∃ response, session.context.validate awaited message = .ok response ∧
        respond equipment now message.header response session = .ok outcome after := by
  simp only [process, bind_eq_ok, consult_eq_ok]
  grind

end Turn
end PlugAndCharge
