import PlugAndCharge.Proofs.ConfigurationFile
import PlugAndCharge.Proofs.Offer

/-!
# Resuming a paused session

A session that is paused hands on the way to pay and the mode that it has settled on.  A later one,
of whatever vehicle, that is configured to resume with them settles on the same again, or fails if
the mode is not on offer any more.  The way to pay can always be chosen again: a contract was chosen
over a protected connection only, and whatever else was chosen rules a contract out.
-/

namespace PlugAndCharge

variable {ω : Type}

/-- A way to pay that has been chosen is chosen again, if it is resumed and still on offer. -/
theorem PaymentOption.choose_resumed {resumed : Option PaymentOption}
    {offered offeredAgain : List PaymentOption} {isTls : Bool}
    (onOffer : choose resumed offered isTls ∈ offeredAgain) :
    choose (some (choose resumed offered isTls)) offeredAgain isTls =
      choose resumed offered isTls := by
  cases chosen : choose resumed offered isTls with
  | contract =>
      obtain ⟨isProtected, -, -⟩ := choose_eq_contract.mp chosen
      exact choose_eq_contract.mpr ⟨isProtected, chosen ▸ onOffer, nofun⟩
  | external => exact if_neg fun holds => holds.2.2 rfl

/-- The choices that a session can hand on are those that it has settled on. -/
theorem Context.choices_eq {first second : Context}
    (same : first.settlement = second.settlement) : first.choices = second.choices :=
  congrArg (fun settlement => Choices.mk settlement.2.1 settlement.2.2) same

/-! ## Taking an offer -/

namespace Passage

variable {equipment : Equipment ω} {passage : Passage ω} {option : PaymentOption}
  {mode : EnergyTransferMode}

/-- An offer is taken in a passage: the session settles on a way to pay and on a mode, uses up the
choices to resume and goes on. -/
structure Settles (equipment : Equipment ω) (passage : Passage ω) (option : PaymentOption)
    (mode : EnergyTransferMode) : Prop where
  isOffer : ∃ content, passage.accepted? = some (.serviceDiscovery content)
  settled : ∃ next after, passage.result equipment = .ok (.next next) after ∧
    after.context.paymentOption = some option ∧ after.context.energyMode = some mode ∧
    after.context.resume = none

/-- An offer is refused in a passage for the lack of a mode: the choices to resume are used up, and
nothing has been selected. -/
structure Refuses (equipment : Equipment ω) (passage : Passage ω) (mode : EnergyTransferMode) :
    Prop where
  isOffer : ∃ content, passage.accepted? = some (.serviceDiscovery content)
  refused : ∃ after,
    passage.result equipment = .error (.incompatible (.modeNotOffered mode)) after ∧
    after = { passage.session with context := { passage.session.context with resume := none } } ∧
    after.context.paymentOption = none ∧ after.context.energyMode = none ∧
    after.context.services = []

section Offer

variable {content : ServiceDiscoveryRes} {chargeService : ChargeService}

/-- What is settled on follows from the offer. -/
theorem Settles.exists_option_eq (settles : passage.Settles equipment option mode) :
    ∃ content, option = passage.session.context.optionFrom content := by
  obtain ⟨⟨content, accepted⟩, next, after, led, option_eq, -, -⟩ := settles
  obtain ⟨header, result_eq⟩ := exists_result_eq_of_accepted accepted
  have responded := Turn.next_eq_ok.mp ((result_eq _).symm.trans led)
  have chosen := (Turn.settled_of_serviceDiscovery responded).2.1
  exact ⟨content, Option.some.inj (option_eq.symm.trans chosen)⟩

/-- An offer with the required mode is taken. -/
theorem settles_of_offered (accepted : passage.accepted? = some (.serviceDiscovery content))
    (offered : content.chargeService = some chargeService)
    (mode_eq : passage.session.context.requiredMode
      (equipment.vehicle.energyMode passage.session.onboard) = mode)
    (isOffered : mode ∈ chargeService.supportedModes) :
    passage.Settles equipment (passage.session.context.optionFrom content) mode := by
  subst mode_eq
  obtain ⟨header, result_eq⟩ := exists_result_eq_of_accepted accepted
  obtain ⟨next, after, went⟩ := Turn.exists_nextDetailsOrSelection_eq_ok _
  have responded := Turn.serviceDiscovery_eq_ok.mpr ⟨chargeService, offered, isOffered, went⟩
  obtain ⟨resume_eq, option_eq, mode_eq⟩ := Turn.settled_of_serviceDiscovery responded
  refine ⟨⟨content, accepted⟩, next, after, ?_, option_eq, mode_eq, resume_eq⟩
  exact (result_eq equipment).trans (Turn.next_eq_ok.mpr responded)

/-- An offer without the required mode fails, if nothing has been selected before. -/
theorem refuses_of_not_offered
    (accepted : passage.accepted? = some (.serviceDiscovery content))
    (offered : content.chargeService = some chargeService)
    (mode_eq : passage.session.context.requiredMode
      (equipment.vehicle.energyMode passage.session.onboard) = mode)
    (notOffered : mode ∉ chargeService.supportedModes)
    (unchosen : passage.session.context.choices = Choices.none)
    (unselected : passage.session.context.services = []) : passage.Refuses equipment mode := by
  subst mode_eq
  obtain ⟨header, result_eq⟩ := exists_result_eq_of_accepted accepted
  have refused := Turn.serviceDiscovery_eq_error offered notOffered
  refine ⟨⟨content, accepted⟩, _, ?_, rfl, ?_, ?_, unselected⟩
  · exact (result_eq equipment).trans (Turn.map_eq_error.mpr refused)
  · exact congrArg Choices.paymentOption unchosen
  · exact congrArg Choices.energyMode unchosen

end Offer

/-- What follows upon an offer holds what has been settled on. -/
theorem Leads.exists_settles {first second : Passage ω} (leads : first.Leads equipment second)
    (discovers : first.step.exchange = .serviceDiscovery) :
    ∃ option mode, first.Settles equipment option mode ∧
      second.session.context.choices = ⟨some option, some mode⟩ := by
  obtain ⟨header, response, -, accepted, awaited, -, -⟩ := leads.exists_response
  rw [exchange_move, discovers] at awaited
  obtain ⟨after, led, second_eq⟩ := leads
  cases response with
  | serviceDiscovery content =>
      obtain ⟨header, result_eq⟩ := exists_result_eq_of_accepted accepted
      have responded := Turn.next_eq_ok.mp ((result_eq _).symm.trans led)
      obtain ⟨resume_eq, option_eq, mode_eq⟩ := Turn.settled_of_serviceDiscovery responded
      refine ⟨_, _, ⟨⟨content, accepted⟩, second.step, after, led, option_eq, mode_eq, resume_eq⟩,
        ?_⟩
      have kept : second.session.context.choices = after.context.choices := by
        rw [second_eq]
        exact Context.choices_eq (settlement_begin _ _ _ _ _)
      rw [kept, Context.choices, option_eq, mode_eq]
  | _ => cases awaited

end Passage

/-! ## Configured sessions -/

/-- A session of any vehicle under the settings of a configuration, with everything else that it
depends on. -/
structure ConfiguredSession (ω : Type) where
  equipment : Equipment ω
  configuration : Configuration
  evccId : Octets
  isIdentified : configuration.evccIdOctets = .ok evccId
  isTls : Bool
  peer : String
  cancelAt : Option Milliseconds
  replies : List Reply
  onboard : ω

namespace ConfiguredSession

/-- The session before its first request. -/
def session (configured : ConfiguredSession ω) : Session ω where
  context :=
    Context.start configured.evccId configured.isTls configured.configuration.timeouts
      (some configured.peer) configured.configuration.resume
  onboard := configured.onboard

/-- The whole session. -/
def run (configured : ConfiguredSession ω) : Run ω :=
  Run.start configured.equipment configured.cancelAt configured.replies configured.session

/-- The requests of the session with what follows from each. -/
def passages (configured : ConfiguredSession ω) : List (Passage ω) :=
  Run.passages configured.equipment configured.cancelAt configured.replies 0
    (Step.first configured.session.context) configured.session

variable {configured : ConfiguredSession ω} {passage : Passage ω}

/-- Configured sessions are what configurations are run for. -/
theorem ofConfiguration_eq (configured : ConfiguredSession ω) :
    Run.ofConfiguration configured.equipment configured.configuration configured.isTls
        configured.peer configured.cancelAt configured.replies configured.onboard =
      .ok configured.run := by
  rw [Run.ofConfiguration, configured.isIdentified]
  rfl

/-- From the selection on, a session holds what an offer has been taken with. -/
theorem exists_settles :
    ∀ passage ∈ configured.passages, passage.step.exchange ≠ .sessionSetup →
      passage.step.exchange ≠ .serviceDiscovery →
        ∃ option mode,
          (∃ offering ∈ configured.passages, offering.Settles configured.equipment option mode) ∧
            passage.session.context.choices = ⟨some option, some mode⟩ := by
  refine Run.forall_passages (fun notSetup => absurd rfl notSetup) ?_
  intro first isFirst second leads holds notSetup notOffer
  -- Only an offer settles anything; upon the setup nothing but the offer can follow.
  by_cases discovers : first.step.exchange = .serviceDiscovery
  · obtain ⟨option, mode, settles, choices_eq⟩ := leads.exists_settles discovers
    exact ⟨option, mode, ⟨first, isFirst, settles⟩, choices_eq⟩
  · have setUpBefore : first.step.exchange ≠ .sessionSetup := by
      intro setsUp
      have follows := leads.follows.exchange_mem
      rw [setsUp] at follows
      exact notOffer (List.mem_singleton.mp follows)
    obtain ⟨option, mode, offering, choices_eq⟩ := holds setUpBefore discovers
    have settled : first.move.isSettled = true :=
      Move.isSettled_of_exchange_ne (by rwa [Passage.exchange_move])
        (by rwa [Passage.exchange_move])
    exact ⟨option, mode, offering,
      (Context.choices_eq (leads.settlement_eq settled)).trans choices_eq⟩

/-- A session that is paused hands on what it has settled on. -/
theorem exists_settles_of_paused {reason : StopReason} (ended : configured.run.result = .ok reason)
    (isPaused : reason.reason = "paused") :
    ∃ option mode,
      reason.resume = some ⟨some option, some mode⟩ ∧
      configured.run.session.context.choices = ⟨some option, some mode⟩ ∧
      ∃ offering ∈ configured.passages, offering.Settles configured.equipment option mode := by
  obtain ⟨last, isLast, terminated⟩ := Run.exists_last_of_result _ _ ended
  obtain ⟨stops, stopped⟩ := Passage.sessionStop_of_terminated terminated
  obtain ⟨after_eq, reason_eq⟩ := Turn.sessionStop_eq_ok.mp stopped
  obtain ⟨option, mode, settles, choices_eq⟩ := exists_settles last (List.mem_of_getLast? isLast)
    (by simp [stops]) (by simp [stops])
  refine ⟨option, mode, ?_, ?_, settles⟩
  · split at reason_eq
    · rw [reason_eq, choices_eq]
      rfl
    · rw [reason_eq] at isPaused
      exact absurd isPaused (show "terminated" ≠ "paused" by decide)
    · rw [reason_eq] at isPaused
      exact absurd isPaused (show "terminated" ≠ "paused" by decide)
  · have context_eq := congrArg Session.context after_eq
    exact (congrArg Context.choices context_eq).trans choices_eq

theorem isTls_eq (isPassage : passage ∈ configured.passages) :
    passage.session.context.isTls = configured.isTls :=
  congrArg Context.Terms.isTls (Run.terms_passages _ _ _ _ _ _ passage isPassage)

/-- Where services are on offer, the session is as it was configured, but for what the setup has
given to it. -/
theorem exists_session_eq (isPassage : passage ∈ configured.passages)
    (discovers : passage.step.exchange = .serviceDiscovery) :
    ∃ sessionId evseId issued,
      passage.session = {
        context := { configured.session.context with
          sessionId := some sessionId, evseId := some evseId, issuedAt := some issued }
        onboard := configured.onboard } := by
  obtain ⟨front, back, shape⟩ := List.append_of_mem isPassage
  obtain ⟨setup, sessionId, evseId, issued, -, session_eq⟩ :=
    Run.exists_setup _ _ _ _ shape discovers
  exact ⟨sessionId, evseId, issued, session_eq⟩

/-- A session is resumed as it was paused.  Under a configuration with what a paused session hands
on, also after that has been written into a file and loaded again, and over a connection that is
protected if the former one was, the same way to pay and the same mode are settled on, if the way to
pay and the mode are on offer; without the mode the session fails and selects nothing. -/
theorem resumes_as_paused {ω' : Type} (first : ConfiguredSession ω) (second : ConfiguredSession ω')
    {reason : StopReason} (ended : first.run.result = .ok reason)
    (isPaused : reason.reason = "paused")
    (resumes : second.configuration.resume = reason.resume)
    (sameTls : second.isTls = first.isTls) :
    ∃ option mode,
      reason.resume = some ⟨some option, some mode⟩ ∧
      first.run.session.context.choices = ⟨some option, some mode⟩ ∧
      (∃ offering ∈ first.passages, offering.Settles first.equipment option mode) ∧
      (∀ (directory : Directory) (path : Path) (written : Directory),
        directory.write path (Json.Wire.write second.configuration) = .ok written →
          Configuration.load written path = .ok second.configuration) ∧
      ∀ offering ∈ second.passages, ∀ content chargeService,
        offering.accepted? = some (.serviceDiscovery content) →
        content.chargeService = some chargeService → option ∈ content.paymentOptions →
          (mode ∈ chargeService.supportedModes → offering.Settles second.equipment option mode) ∧
          (mode ∉ chargeService.supportedModes → offering.Refuses second.equipment mode ∧
            second.run.result = .error (.incompatible (.modeNotOffered mode))) := by
  obtain ⟨option, mode, resume_eq, choices_eq, former, isFormer, settles⟩ :=
    first.exists_settles_of_paused ended isPaused
  refine ⟨option, mode, resume_eq, choices_eq, ⟨former, isFormer, settles⟩, ?_, ?_⟩
  · exact fun directory path written stored =>
      Configuration.load_of_write second.isIdentified stored
  · intro offering isOffering content chargeService accepted offered onOffer
    obtain ⟨sessionId, evseId, issued, session_eq⟩ :=
      exists_session_eq isOffering (Passage.exchange_of_accepted accepted).symm
    have resumed : offering.session.context.resume = some ⟨some option, some mode⟩ := by
      rw [session_eq]
      exact resumes.trans resume_eq
    have mode_eq : offering.session.context.requiredMode
        (second.equipment.vehicle.energyMode offering.session.onboard) = mode := by
      rw [Context.requiredMode, resumed]
      rfl
    -- The former choice was made under the same protection, so it can be made again.
    have option_eq : offering.session.context.optionFrom content = option := by
      obtain ⟨formerContent, rfl⟩ := settles.exists_option_eq
      have isTls : offering.session.context.isTls = former.session.context.isTls :=
        (isTls_eq isOffering).trans (sameTls.trans (isTls_eq isFormer).symm)
      rw [Context.optionFrom, resumed, isTls]
      exact PaymentOption.choose_resumed onOffer
    refine ⟨fun isOffered => ?_, fun notOffered => ?_⟩
    · have settled := Passage.settles_of_offered accepted offered mode_eq isOffered
      rwa [option_eq] at settled
    · have refuses := Passage.refuses_of_not_offered accepted offered mode_eq notOffered
        (by rw [session_eq]; rfl) (by rw [session_eq]; rfl)
      obtain ⟨front, back, shape⟩ := List.append_of_mem isOffering
      obtain ⟨after, refused, -⟩ := refuses.refused
      obtain ⟨-, run_eq⟩ := Run.eq_nil_of_result_eq_error _ _ _ _ shape refused
      exact ⟨refuses, congrArg Run.result run_eq⟩

/-! ### A session that is paused and resumed -/

/-- An unprotected session of the simulated vehicle to which a station gives these responses one
after another. -/
def ofResponses (resume : Option Choices) (settings : VehicleSettings)
    (responses : List Response) : ConfiguredSession Onboard where
  equipment := Onboard.equipment Suite.standard
  configuration := { Configuration.standard with resume, simulator := settings }
  evccId := [0x0A, 0x1B, 0x2C, 0x3D, 0x4E, 0x5F]
  isIdentified := Configuration.evccIdOctets_of_standard rfl
  isTls := false
  peer := ""
  cancelAt := none
  replies := (Scenario.ofResponses settings.energyMode responses).replies
  onboard :=
    { simulator := Simulator.start settings false
      directory := Directory.empty "" }

/-- A vehicle that pauses after one round of charging, under alternating current. -/
def paused : ConfiguredSession Onboard :=
  ofResponses none
    { VehicleSettings.standard with chargeLoops := 0, pauseWhenDone := true }
    (Scenario.responsesUpToPower .acThreePhaseCore ++
      [.chargingStatus {
        responseCode := .ok
        evseId := ""
        scheduleTupleId := 1
        maxCurrent := none
        meterInfo := none
        receiptRequired := none
        acStatus := { notificationMaxDelay := 0, notification := .none, rcd := false } },
      .powerDelivery { responseCode := .ok, acStatus := none, dcStatus := none },
      .sessionStop { responseCode := .ok }])

/-- The choices of the paused session. -/
def pausedChoices : Choices where
  paymentOption := some .external
  energyMode := some .acThreePhaseCore

/-- An offer of contracts and of both kinds of current. -/
def laterOffer : ServiceDiscoveryRes where
  responseCode := .ok
  paymentOptions := [.contract, .external]
  chargeService := some {
    serviceId := 1
    serviceName := none
    serviceCategory := .evCharging
    freeService := true
    supportedModes := [.dcCore, .acThreePhaseCore] }
  serviceList := none

/-- A vehicle for direct current that resumes the paused session. -/
def resumed : ConfiguredSession Onboard :=
  ofResponses (some pausedChoices) { VehicleSettings.standard with energyMode := .dcCore }
    [.sessionSetup { responseCode := .ok, evseId := "", timeStamp := none },
      .serviceDiscovery laterOffer]

/-- What the paused session has settled on is settled on again, under either kind of current. -/
theorem resumed_settles :
    (∃ reason, paused.run.result = .ok reason ∧ reason.reason = "paused" ∧
      resumed.configuration.resume = reason.resume) ∧
      ∃ offering ∈ resumed.passages,
        offering.Settles resumed.equipment .external .acThreePhaseCore := by
  have ended : paused.run.result =
      .ok (StopReason.success "paused" (some "") (some pausedChoices)) := by
    decide +kernel
  obtain ⟨offering, isOffering, accepted⟩ :
      ∃ offering ∈ resumed.passages,
        offering.accepted? = some (.serviceDiscovery laterOffer) := by
    decide +kernel
  obtain ⟨option, mode, resume_eq, -, -, -, settles⟩ :=
    resumes_as_paused paused resumed ended rfl rfl rfl
  cases resume_eq
  refine ⟨⟨_, ended, rfl, rfl⟩, offering, isOffering, ?_⟩
  exact (settles offering isOffering laterOffer _ accepted rfl (by decide)).1 (by decide)

end ConfiguredSession
end PlugAndCharge
