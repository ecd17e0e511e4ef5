import PlugAndCharge.Proofs.Onboard

/-!
# Unprotected sessions

Over an unprotected connection a session takes no part in contracts: it settles on external payment
whatever it resumes and whatever is offered, and sends nothing that presents, installs or uses a
contract.  Certificates, keys and the keeping of contracts have no influence on it.
-/

namespace PlugAndCharge

open P256 (PrivateKey)

/-- A request that has nothing to do with a contract. -/
def Request.IsPlain : Request → Prop
  | .certificateInstallation _ | .paymentDetails _ | .meteringReceipt _ => False
  | .authorization content => content.id = none ∧ content.genChallenge = none
  | .paymentServiceSelection content => content.selectedPaymentOption = .external
  | _ => True

/-- An unsigned message with a request that has nothing to do with a contract. -/
def Message.IsPlain (message : Message) : Prop :=
  message.header.signature = none ∧ ∃ request, message.body = .request request ∧ request.IsPlain

/-- A step whose message is plain. -/
structure Step.IsPlain (step : Step) : Prop where
  unsigned : step.signature = none
  request : step.request.IsPlain

/-- The connection is unprotected, and the session has not settled on a contract. -/
structure Context.Unprotected (context : Context) : Prop where
  notTls : context.isTls = false
  noContract : context.paymentOption ≠ some .contract

/-- A vehicle in which certificates, keys and contracts are kept in other hands. -/
def Equipment.withCustody {ω : Type} (equipment : Equipment ω) (credentials : Credentials ω)
    (storeContract : CertificateChain → PrivateKey → ω → Except VehicleError Unit × ω) :
    Equipment ω where
  vehicle := { equipment.vehicle with storeContract }
  credentials := credentials

theorem Step.IsPlain.message {step : Step} (isPlain : step.IsPlain) : step.message.IsPlain :=
  ⟨isPlain.unsigned, step.request, rfl, isPlain.request⟩

/-- No contract is chosen over an unprotected connection. -/
theorem Context.optionFrom_eq_external {context : Context} (notTls : context.isTls = false)
    (content : ServiceDiscoveryRes) : context.optionFrom content = .external := by
  simp [Context.optionFrom, PaymentOption.choose, notTls]

namespace Context.Unprotected

variable {context : Context}

/-- What the session has settled on decides. -/
theorem of_settlement_eq {other : Context} (unprotected : context.Unprotected)
    (same : other.settlement = context.settlement) : other.Unprotected where
  notTls := (congrArg (fun settlement => settlement.1.isTls) same).trans unprotected.notTls
  noContract := fun contract => unprotected.noContract
    ((congrArg (fun settlement => settlement.2.1) same).symm.trans contract)

theorem paymentSelection (unprotected : context.Unprotected) :
    context.paymentSelection.selectedPaymentOption = .external := by
  unfold Context.paymentSelection
  cases option : context.paymentOption with
  | none => rfl
  | some chosen =>
      cases chosen with
      | external => rfl
      | contract => exact absurd option unprotected.noContract

end Context.Unprotected

namespace Turn

variable {ω : Type} {equipment : Equipment ω} {session after : Session ω} {next : Step}
  {now : Milliseconds} {header : Header} {response : Response}

/-! ## What is sent next -/

private theorem isPlain_ofRequest (context : Context) {awaited : Exchange} {request : Request}
    (isPlain : request.IsPlain) : (Step.ofRequest context awaited request).IsPlain :=
  ⟨rfl, isPlain⟩

private theorem plain_nextDetailsOrSelection (unprotected : session.context.Unprotected)
    (responded : nextDetailsOrSelection session = .ok next after) :
    next.IsPlain ∧ after.context.Unprotected := by
  refine ⟨?_, unprotected.of_settlement_eq (Keeps.nextDetailsOrSelection.of_eq_ok responded)⟩
  obtain ⟨-, -, rfl⟩ | ⟨_, _, -, -, rfl⟩ := nextDetailsOrSelection_eq_ok.mp responded
  · exact isPlain_ofRequest _ unprotected.paymentSelection
  · exact isPlain_ofRequest _ trivial

private theorem isPlain_sendAgain {awaited : Exchange} {request : Request}
    (responded : sendAgain now awaited request session = .ok next after) (isPlain : request.IsPlain) :
    next.IsPlain := by
  obtain ⟨_, -, -, rfl⟩ := sendAgain_eq_ok.mp responded
  exact ⟨rfl, isPlain⟩

private theorem isPlain_changePower {progress : ChargeProgress}
    (responded : changePower progress session = .ok next after) : next.IsPlain := by
  obtain ⟨_, -, -, rfl⟩ := changePower_eq_ok.mp responded
  exact isPlain_ofRequest _ trivial

private theorem isPlain_demandCurrent
    (responded : demandCurrent equipment session = .ok next after) : next.IsPlain := by
  obtain ⟨_, -, -, rfl⟩ := demandCurrent_eq_ok.mp responded
  exact isPlain_ofRequest _ trivial

private theorem isPlain_nextRound (responded : nextRound equipment session = .ok next after) :
    next.IsPlain := by
  obtain ⟨-, -, rfl⟩ | ⟨-, responded⟩ := nextRound_eq_ok.mp responded
  · exact isPlain_ofRequest _ trivial
  · exact isPlain_demandCurrent responded

private theorem isPlain_heed {notification : EvseNotification} {otherwise : Turn ω Step}
    (isPlain : otherwise session = .ok next after → next.IsPlain)
    (responded : heed notification otherwise session = .ok next after) : next.IsPlain := by
  cases notification with
  | none => exact isPlain responded
  | stopCharging => exact isPlain_changePower (stopCharging_eq_ok.mp responded)
  | renegotiation => exact isPlain_changePower (renegotiate_eq_ok.mp responded)

private theorem isPlain_afterRound {report : RoundReport} {another : Turn ω Step}
    (unprotected : session.context.Unprotected)
    (isPlain : ∀ onboard, another { session with onboard } = .ok next after → next.IsPlain)
    (responded : afterRound equipment report another session = .ok next after) :
    next.IsPlain := by
  obtain ⟨-, isTls, -⟩ | ⟨-, responded⟩ := afterRound_eq_ok.mp responded
  · rw [unprotected.notTls] at isTls
    cases isTls
  · refine isPlain_heed (fun responded => ?_) responded
    obtain ⟨-, responded⟩ | ⟨-, responded⟩ := continueOrStop_eq_ok.mp responded
    · exact isPlain _ responded
    · exact isPlain_changePower (stopCharging_eq_ok.mp responded)

/-- An unprotected session answers whatever does not come from a contract with a plain request, and
stays unprotected. -/
theorem plain_respond (unprotected : session.context.Unprotected)
    (notDelivery : response.exchange ≠ .certificateInstallation)
    (notChallenge : response.exchange ≠ .paymentDetails)
    (responded : respond equipment now header response session = .ok (.next next) after) :
    next.IsPlain ∧ after.context.Unprotected := by
  have stays (notOffer : response.exchange ≠ .serviceDiscovery) : after.context.Unprotected :=
    unprotected.of_settlement_eq ((Keeps.respond notOffer).of_eq_ok responded)
  cases response with
  | sessionSetup content =>
      obtain ⟨-, -, -, rfl⟩ := sessionSetup_eq_ok.mp (next_eq_ok.mp responded)
      exact ⟨isPlain_ofRequest _ trivial, stays nofun⟩
  | serviceDiscovery content =>
      obtain ⟨chargeService, -, -, responded⟩ :=
        serviceDiscovery_eq_ok.mp (next_eq_ok.mp responded)
      refine plain_nextDetailsOrSelection ?_ responded
      rw [Context.takeOffer_eq, Context.optionFrom_eq_external unprotected.notTls]
      exact ⟨unprotected.notTls, nofun⟩
  | serviceDetail content =>
      exact plain_nextDetailsOrSelection unprotected (next_eq_ok.mp responded)
  | paymentServiceSelection content =>
      refine ⟨?_, stays nofun⟩
      obtain ⟨-, -, rfl⟩ | ⟨contract, -⟩ | ⟨contract, -⟩ :=
        paymentServiceSelection_eq_ok.mp (next_eq_ok.mp responded)
      · exact isPlain_ofRequest _ ⟨rfl, rfl⟩
      · exact absurd contract unprotected.noContract
      · exact absurd contract unprotected.noContract
  | certificateInstallation content => exact absurd rfl notDelivery
  | paymentDetails content => exact absurd rfl notChallenge
  | authorization content =>
      refine ⟨?_, stays nofun⟩
      obtain ⟨-, -, rfl⟩ | ⟨-, responded⟩ := authorization_eq_ok.mp (next_eq_ok.mp responded)
      · exact isPlain_ofRequest _ trivial
      · exact isPlain_sendAgain responded ⟨rfl, rfl⟩
  | chargeParameterDiscovery content =>
      refine ⟨?_, stays nofun⟩
      obtain ⟨-, _, -, -, rfl⟩ | ⟨-, responded⟩ :=
        chargeParameterDiscovery_eq_ok.mp (next_eq_ok.mp responded)
      · exact isPlain_ofRequest _ trivial
      · exact isPlain_sendAgain responded trivial
  | powerDelivery content =>
      refine ⟨?_, stays nofun⟩
      obtain ⟨_, -, -, rfl⟩ | ⟨-, -, -, rfl⟩ | ⟨-, -, responded⟩ :=
        powerDelivery_eq_ok.mp (next_eq_ok.mp responded)
      · exact isPlain_ofRequest _ trivial
      · exact isPlain_ofRequest _ trivial
      · exact isPlain_nextRound responded
  | chargingStatus content =>
      refine ⟨isPlain_afterRound unprotected (fun onboard sent => ?_) (next_eq_ok.mp responded),
        stays nofun⟩
      obtain ⟨-, rfl⟩ := send_eq_ok.mp sent
      exact isPlain_ofRequest _ trivial
  | currentDemand content =>
      exact ⟨isPlain_afterRound unprotected (fun onboard => isPlain_demandCurrent)
        (next_eq_ok.mp responded), stays nofun⟩
  | meteringReceipt content =>
      exact ⟨isPlain_heed isPlain_nextRound (next_eq_ok.mp responded), stays nofun⟩
  | sessionStop content =>
      obtain ⟨_, -, ⟨⟩⟩ := map_eq_ok.mp responded

/-! ## Custody -/

/-- How certificates, keys and contracts are kept makes no difference to an unprotected session. -/
theorem respond_withCustody (unprotected : session.context.Unprotected)
    (notDelivery : response.exchange ≠ .certificateInstallation)
    (notChallenge : response.exchange ≠ .paymentDetails) (credentials : Credentials ω)
    (storeContract : CertificateChain → PrivateKey → ω → Except VehicleError Unit × ω) :
    respond (equipment.withCustody credentials storeContract) now header response session =
      respond equipment now header response session := by
  have selection : paymentServiceSelection (equipment.withCustody credentials storeContract)
      session = paymentServiceSelection equipment session := by
    simp only [paymentServiceSelection, context_bind, if_pos unprotected.noContract]
  have round (report : RoundReport) (another : Turn ω Step) :
      afterRound (equipment.withCustody credentials storeContract) report another session =
        afterRound equipment report another session := by
    simp only [afterRound, context_bind, unprotected.notTls, Bool.false_eq_true, and_false,
      if_false]
    rfl
  cases response with
  | certificateInstallation content => exact absurd rfl notDelivery
  | paymentDetails content => exact absurd rfl notChallenge
  | paymentServiceSelection content =>
      simp only [respond, Functor.map, EStateM.map, selection]
  | chargingStatus content => simp only [respond, Functor.map, EStateM.map, chargingStatus, round]
  | currentDemand content =>
      simp only [respond, Functor.map, EStateM.map, currentDemand, round]
      rfl
  | _ => rfl

end Turn

/-! ## Runs -/

theorem Request.IsPlain.exchange_ne {request : Request} (isPlain : request.IsPlain) :
    request.exchange ≠ .certificateInstallation ∧ request.exchange ≠ .paymentDetails := by
  cases request with
  | certificateInstallation content => exact isPlain.elim
  | paymentDetails content => exact isPlain.elim
  | _ => exact ⟨nofun, nofun⟩

namespace Passage

variable {ω : Type} {equipment : Equipment ω} {first second passage : Passage ω}

/-- A plain request of an unprotected session. -/
structure Unprotected (passage : Passage ω) : Prop where
  context : passage.session.context.Unprotected
  step : passage.step.IsPlain

theorem Leads.unprotected (leads : first.Leads equipment second)
    (unprotected : first.Unprotected) : second.Unprotected := by
  obtain ⟨header, response, after, -, awaited, responded, second_eq⟩ := leads.exists_response
  obtain ⟨notDelivery, notChallenge⟩ := unprotected.step.request.exchange_ne
  rw [← Request.exchange_move, ← move, ← awaited] at notDelivery notChallenge
  obtain ⟨isPlain, stays⟩ :=
    Turn.plain_respond unprotected.context notDelivery notChallenge responded
  rw [second_eq]
  exact ⟨stays.of_settlement_eq (settlement_begin _ _ _ _ _), isPlain⟩

theorem Unprotected.result_withCustody (unprotected : passage.Unprotected)
    (credentials : Credentials ω)
    (storeContract : CertificateChain → PrivateKey → ω → Except VehicleError Unit × ω) :
    passage.result (equipment.withCustody credentials storeContract) =
      passage.result equipment := by
  obtain ⟨notDelivery, notChallenge⟩ := unprotected.step.request.exchange_ne
  obtain ⟨-, error, failed⟩ | ⟨header, response, -, awaited, responded⟩ := passage.result_cases
  · rw [failed, failed]
  · rw [responded, responded]
    exact Turn.respond_withCustody unprotected.context (awaited ▸ notDelivery)
      (awaited ▸ notChallenge) credentials storeContract

end Passage

namespace Run

variable {ω : Type} {equipment other : Equipment ω} {cancelAt : Option Milliseconds}

theorem passages_congr {replies : List Reply} {now : Milliseconds} {step : Step}
    {session : Session ω}
    (agree : ∀ passage ∈ passages equipment cancelAt replies now step session,
      passage.result other = passage.result equipment) :
    passages other cancelAt replies now step session =
      passages equipment cancelAt replies now step session := by
  induction replies generalizing now step session with
  | nil => rfl
  | cons reply replies ih =>
      rw [passages] at agree
      rw [passages, passages]
      cases unsent : reply.fault? with
      | some fault => rfl
      | none =>
          simp only [unsent] at agree
          simp only [agree _ List.mem_cons_self]
          split
          next next after led =>
            simp only [led] at agree
            rw [ih fun passage isPassage => agree passage (List.mem_cons_of_mem _ isPassage)]
          next => rfl

/-- Equipment from which the same follows in every passage of a run makes no difference to it. -/
theorem drive_congr {replies : List Reply} {now : Milliseconds} {step : Step}
    {session : Session ω}
    (agree : ∀ passage ∈ passages equipment cancelAt replies now step session,
      passage.result other = passage.result equipment)
    [step.AwaitsAnswer] :
    drive other cancelAt replies now step session =
      drive equipment cancelAt replies now step session := by
  by_cases isNil : passages equipment cancelAt replies now step session = []
  · obtain ⟨fault, unsent⟩ := (passages_eq_nil_iff equipment cancelAt).mp isNil
    rw [drive_of_unsent equipment cancelAt unsent, drive_of_unsent other cancelAt unsent]
  · have same := passages_congr agree
    rw [drive_eq_getLast equipment cancelAt replies now step session isNil,
      drive_eq_getLast other cancelAt replies now step session (same ▸ isNil)]
    have agreeLast := agree _ (List.getLast_mem isNil)
    simp only [same, Passage.conclusion, agreeLast]

end Run

namespace Scenario

theorem unprotected_passages {scenario : Scenario} (notTls : scenario.isTls = false) :
    ∀ passage ∈ scenario.passages, passage.Unprotected := by
  refine Run.forall_passages ?_ fun first _ second leads => leads.unprotected
  exact ⟨⟨notTls, nofun⟩, ⟨rfl, trivial⟩⟩

/-- Over an unprotected connection every message is unsigned and has nothing to do with a contract.
However certificates, keys and contracts are kept, the run is the same; in the end the directory is
as it was, and so is the contract that the vehicle holds. -/
theorem plain_of_unprotected (scenario : Scenario) (notTls : scenario.isTls = false)
    (credentials : Credentials Onboard)
    (storeContract :
      CertificateChain → PrivateKey → Onboard → Except VehicleError Unit × Onboard) :
    (∀ sending ∈ scenario.run.sent, sending.2.IsPlain) ∧
      Run.start (scenario.equipment.withCustody credentials storeContract) scenario.cancelAt
          scenario.replies scenario.session = scenario.run ∧
      scenario.run.session.onboard.directory = scenario.onboard.directory ∧
      scenario.run.session.onboard.simulator.contract = scenario.onboard.simulator.contract := by
  have unprotected := unprotected_passages notTls
  refine ⟨fun sending isSent => ?_, ?_, ?_⟩
  · rw [scenario.sent_run] at isSent
    obtain ⟨passage, isPassage, rfl⟩ := List.mem_map.mp isSent
    exact (unprotected passage isPassage).step.message
  · exact Run.drive_congr fun passage isPassage =>
      (unprotected passage isPassage).result_withCustody credentials storeContract
  · refine (scenario.onboard_maintained
      (fun onboard => onboard.directory = scenario.onboard.directory ∧
        onboard.simulator.contract = scenario.onboard.simulator.contract)
      ⟨rfl, rfl⟩ (fun onboard asBefore => ?_) fun passage isPassage delivery => ?_).2
    · obtain ⟨loopsDone, asked_eq⟩ := onboard.simulator.exists_continueCharging_eq
      exact ⟨asBefore.1, (congrArg Simulator.contract asked_eq).trans asBefore.2⟩
    · exact absurd delivery (unprotected passage isPassage).step.request.exchange_ne.1

/-! ## A contract that is not used -/

/-- An unprotected session that resumes a contract.  The station takes contracts and provides them,
the vehicle has none yet, and a receipt is wanted after the first round of charging. -/
def contractOffered : Scenario :=
  { ofResponses .acThreePhaseCore
      ([.sessionSetup { responseCode := .ok, evseId := "", timeStamp := none },
        .serviceDiscovery {
          responseCode := .ok
          paymentOptions := [.contract, .external]
          chargeService := some {
            serviceId := 1
            serviceName := none
            serviceCategory := .evCharging
            freeService := true
            supportedModes := [.acThreePhaseCore] }
          serviceList := some [{
            serviceId := 2
            serviceName := none
            serviceCategory := .contractCertificate
            freeService := true }] }] ++
      (responsesUpToPower .acThreePhaseCore).drop 2 ++
      [.chargingStatus {
        responseCode := .ok
        evseId := ""
        scheduleTupleId := 1
        maxCurrent := none
        meterInfo := some meterInfo
        receiptRequired := some true
        acStatus := { notificationMaxDelay := 0, notification := .none, rcd := false } }]) with
    isTls := false
    resume := some { paymentOption := some .contract, energyMode := none }
    onboard :=
      { simulator :=
          Simulator.start { VehicleSettings.standard with certInstallNeeded := true } true
        directory := Directory.empty "" } }

/-- The session comes to its second round of charging, and its requests are plain. -/
theorem contractOffered_plain :
    contractOffered.isTls = false ∧ contractOffered.run.sent.length = 8 ∧
      (∀ sending ∈ contractOffered.run.sent, sending.2.IsPlain) ∧
      contractOffered.run.session.onboard.directory = Directory.empty "" := by
  have plain := contractOffered.plain_of_unprotected rfl contractOffered.credentials
    contractOffered.equipment.vehicle.storeContract
  exact ⟨rfl, by decide +kernel, plain.1, plain.2.2.1⟩

end Scenario
end PlugAndCharge
