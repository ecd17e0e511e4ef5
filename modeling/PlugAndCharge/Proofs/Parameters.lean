import PlugAndCharge.Proofs.Onboard

/-!
# What the vehicle states

A vehicle states what it can take, and the mode it wants, each time the power is agreed on.  It
states the same every time: the parameters are those of its own mode, while the mode is the resumed
one if there is one.  So what it states is consistent if both modes are of one kind of current.
-/

namespace PlugAndCharge

namespace ChargeParameterDiscoveryReq

/-- The parameters are given for the kind of current of the mode, and for that only. -/
def isConsistent (content : ChargeParameterDiscoveryReq) : Bool :=
  content.acParameters.isSome == content.requestedMode.isAc &&
    content.dcParameters.isSome == !content.requestedMode.isAc

end ChargeParameterDiscoveryReq

/-- What a request states of the vehicle, if that is what it is for. -/
def Request.statement? : Request → Option ChargeParameterDiscoveryReq
  | .chargeParameterDiscovery content => some content
  | _ => none

theorem Request.move_of_statement? {request : Request} {content : ChargeParameterDiscoveryReq}
    (states : request.statement? = some content) : request.move = .offerParameters := by
  cases request with
  | chargeParameterDiscovery _ => rfl
  | _ => cases states

namespace Scenario

/-- What the vehicle states in the messages of a scenario, one after another. -/
def statements (scenario : Scenario) : List ChargeParameterDiscoveryReq :=
  scenario.run.sent.filterMap fun sending =>
    match sending.2.body with
    | .request request => request.statement?
    | .response _ => none

/-- The vehicle's own mode. -/
def ownMode (scenario : Scenario) : EnergyTransferMode :=
  scenario.onboard.simulator.settings.energyMode

/-- The mode that is asked for: the resumed one, or else the vehicle's own. -/
def wantedMode (scenario : Scenario) : EnergyTransferMode :=
  (scenario.resume.getD Choices.none).energyMode.getD scenario.ownMode

/-- What the vehicle states: the wanted mode with the parameters of its own mode. -/
def statement (scenario : Scenario) : ChargeParameterDiscoveryReq where
  maxEntries := none
  requestedMode := scenario.wantedMode
  acParameters := scenario.onboard.simulator.chargeParameters.ac
  dcParameters := scenario.onboard.simulator.chargeParameters.dc

theorem isConsistent_statement (scenario : Scenario) :
    scenario.statement.isConsistent = (scenario.wantedMode.isAc == scenario.ownMode.isAc) := by
  have parameters : scenario.statement.acParameters.isSome = scenario.ownMode.isAc ∧
      scenario.statement.dcParameters.isSome = !scenario.ownMode.isAc := by
    simp only [statement, ownMode, Simulator.chargeParameters]
    cases isAc : scenario.onboard.simulator.settings.energyMode.isAc <;> exact ⟨rfl, rfl⟩
  have mode : scenario.statement.requestedMode = scenario.wantedMode := rfl
  rw [ChargeParameterDiscoveryReq.isConsistent, parameters.1, parameters.2, mode]
  cases scenario.ownMode.isAc <;> cases scenario.wantedMode.isAc <;> rfl

end Scenario

/-! ## Where statements come from -/

namespace Turn

variable {ω : Type} {equipment : Equipment ω} {session after : Session ω} {next : Step}
  {now : Milliseconds} {header : Header} {response : Response}
  {content : ChargeParameterDiscoveryReq}

private theorem no_statement_nextRound
    (responded : nextRound equipment session = .ok next after) :
    next.request.statement? = none := by
  obtain ⟨-, -, rfl⟩ | ⟨-, responded⟩ := nextRound_eq_ok.mp responded
  · rfl
  · obtain ⟨_, -, -, rfl⟩ := demandCurrent_eq_ok.mp responded
    rfl

/-- What is stated after a response is what the vehicle can take then. -/
theorem statement_of_respond {move : Move} (awaited : response.exchange = move.exchange)
    (follows : next.request.move ∈ move.successors after.context.isAc)
    (responded : respond equipment now header response session = .ok (.next next) after)
    (states : next.request.statement? = some content) :
    content = chargeParametersOf equipment after := by
  have offers := Request.move_of_statement? states
  obtain ⟨progress, move_eq⟩ := move.exists_eq_ofExchange
  rw [offers, move_eq, ← awaited] at follows
  cases response with
  | authorization _ =>
      obtain ⟨-, -, rfl⟩ | ⟨-, responded⟩ := authorization_eq_ok.mp (next_eq_ok.mp responded)
      · exact (Option.some.inj states).symm
      · obtain ⟨_, -, -, rfl⟩ := sendAgain_eq_ok.mp responded
        cases states
  | chargeParameterDiscovery _ =>
      obtain ⟨-, _, -, -, rfl⟩ | ⟨-, responded⟩ :=
        chargeParameterDiscovery_eq_ok.mp (next_eq_ok.mp responded)
      · cases states
      · obtain ⟨_, noted, kept, rfl⟩ := sendAgain_eq_ok.mp responded
        obtain ⟨-, -, changed⟩ := Context.noteOngoing_eq_ok.mp noted
        have stated : content = chargeParametersOf equipment session :=
          (Option.some.inj states).symm
        rw [stated, chargeParametersOf, chargeParametersOf, kept, changed]
  | powerDelivery _ =>
      obtain ⟨_, -, -, rfl⟩ | ⟨-, -, -, rfl⟩ | ⟨-, -, responded⟩ :=
        powerDelivery_eq_ok.mp (next_eq_ok.mp responded)
      · cases states
      · exact (Option.some.inj states).symm
      · rw [no_statement_nextRound responded] at states
        cases states
  | _ =>
      -- After every other response there is no offer of parameters.
      simp [Move.successors, Move.ofExchange, Response.exchange] at follows

end Turn

namespace Scenario

/-! ## The mode of a scenario -/

/-- Until it has settled on a mode, a session has what it is to resume; then the mode is the wanted
one. -/
structure KeepsMode (scenario : Scenario) (context : Context) : Prop where
  unsettled : context.energyMode = none → context.resume = scenario.resume
  settled : ∀ mode ∈ context.energyMode, mode = scenario.wantedMode

namespace KeepsMode

variable {scenario : Scenario} {context : Context}

theorem requestSent (keeps : scenario.KeepsMode context) (repeated : Bool) (now : Milliseconds) :
    scenario.KeepsMode (context.requestSent repeated now) := by
  unfold Context.requestSent
  split
  · exact keeps
  · exact ⟨keeps.unsettled, keeps.settled⟩

theorem of_settlement_eq {other : Context} (keeps : scenario.KeepsMode context)
    (settled : context.energyMode.isSome = true)
    (same : other.settlement = context.settlement) : scenario.KeepsMode other := by
  have sameMode : other.energyMode = context.energyMode :=
    congrArg (fun settlement => settlement.2.2) same
  refine ⟨fun unsettled => ?_, fun mode isMode => keeps.settled mode (sameMode ▸ isMode)⟩
  rw [← sameMode, unsettled] at settled
  cases settled

end KeepsMode

/-- An offer of services settles the session on the wanted mode. -/
theorem keepsMode_serviceDiscovery {scenario : Scenario} {session after : Session Onboard}
    {content : ServiceDiscoveryRes} {next : Step}
    (resumes : session.context.resume = scenario.resume)
    (ownMode_eq : session.onboard.simulator.settings.energyMode = scenario.ownMode)
    (responded : Turn.serviceDiscovery scenario.equipment content session = .ok next after) :
    scenario.KeepsMode after.context := by
  obtain ⟨-, -, settled⟩ := Turn.settled_of_serviceDiscovery responded
  have wanted : session.context.requiredMode
      (scenario.equipment.vehicle.energyMode session.onboard) = scenario.wantedMode := by
    rw [Context.requiredMode, resumes, wantedMode, ← ownMode_eq]
    rfl
  rw [wanted] at settled
  refine ⟨fun unsettled => ?_, fun mode isMode => ?_⟩
  · rw [settled] at unsettled
    cases unsettled
  · rw [settled] at isMode
    exact (Option.some.inj isMode).symm

/-- The settings of the vehicle stay as they are. -/
theorem settings_eq (scenario : Scenario) :
    ∀ passage ∈ scenario.passages,
      passage.session.onboard.simulator.settings = scenario.onboard.simulator.settings := by
  refine (scenario.onboard_maintained
    (fun onboard => onboard.simulator.settings = scenario.onboard.simulator.settings)
    rfl (fun onboard asBefore => ?_) fun _ _ _ chain key onboard asBefore => ?_).1
  · obtain ⟨loopsDone, asked_eq⟩ := onboard.simulator.exists_continueCharging_eq
    exact (congrArg Simulator.settings asked_eq).trans asBefore
  · obtain ⟨contract, directory, stored_eq⟩ :=
      onboard.exists_storeContract_eq scenario.suite chain key
    exact (congrArg (fun onboard => onboard.simulator.settings) stored_eq).trans asBefore

theorem keepsMode_passages (scenario : Scenario) :
    ∀ passage ∈ scenario.passages, scenario.KeepsMode passage.session.context := by
  refine Run.forall_passages ?_ fun first isFirst second leads keeps => ?_
  · have begins : scenario.KeepsMode scenario.session.context := ⟨fun _ => rfl, nofun⟩
    exact begins.requestSent false 0
  · have fits := scenario.fits first isFirst
    cases settled : first.move.isSettled with
    | true =>
        exact keeps.of_settlement_eq (fits.isSettled_iff.mp settled) (leads.settlement_eq settled)
    | false =>
        have unsettled : first.session.context.energyMode = none := by
          simpa [settled] using fits.modeSettled
        obtain ⟨header, response, after, -, awaited, responded, second_eq⟩ :=
          leads.exists_response
        rw [second_eq]
        refine KeepsMode.requestSent ?_ _ _
        cases response with
        | sessionSetup content =>
            obtain ⟨-, -, rfl, -⟩ := Turn.sessionSetup_eq_ok.mp (Turn.next_eq_ok.mp responded)
            exact ⟨keeps.unsettled, keeps.settled⟩
        | serviceDiscovery content =>
            refine keepsMode_serviceDiscovery (keeps.unsettled unsettled) ?_
              (Turn.next_eq_ok.mp responded)
            exact congrArg VehicleSettings.energyMode (scenario.settings_eq first isFirst)
        | _ =>
            obtain ⟨progress, move_eq⟩ := first.move.exists_eq_ofExchange
            rw [move_eq, ← awaited] at settled
            cases settled

/-- What the vehicle states in a passage is what it can take then. -/
theorem statement_eq_chargeParametersOf (scenario : Scenario) :
    ∀ passage ∈ scenario.passages, ∀ content ∈ passage.step.request.statement?,
      content = Turn.chargeParametersOf scenario.equipment passage.session := by
  refine Run.forall_passages (fun content states => ?_)
    fun first isFirst second leads _ content states => ?_
  · have setsUp : Request.statement? (Step.first scenario.session.context).request = none := rfl
    simp only [Passage.begin, setsUp] at states
    cases states
  · have follows := (leads.fits scenario.onlyStarts (scenario.fits first isFirst)).2
    obtain ⟨header, response, after, -, awaited, responded, second_eq⟩ := leads.exists_response
    have mode_eq : second.session.context.energyMode = after.context.energyMode := by
      rw [second_eq]
      exact congrArg (fun settlement => settlement.2.2) (Passage.settlement_begin _ _ _ _ _)
    have onboard_eq : second.session.onboard = after.onboard := by
      rw [second_eq]
      rfl
    rw [Context.isAc, mode_eq] at follows
    rw [Turn.statement_of_respond awaited follows responded states, Turn.chargeParametersOf,
      Turn.chargeParametersOf, mode_eq, onboard_eq]

/-- What the vehicle states in a passage is what every statement of the scenario is. -/
theorem statement_eq (scenario : Scenario) :
    ∀ passage ∈ scenario.passages, ∀ content ∈ passage.step.request.statement?,
      content = scenario.statement := by
  intro passage isPassage content states
  have offers : passage.move = .offerParameters := Request.move_of_statement? states
  have settled := (scenario.fits passage isPassage).modeSettled
  rw [offers] at settled
  obtain ⟨mode, settled⟩ := Option.isSome_iff_exists.mp settled
  have mode_eq := (scenario.keepsMode_passages passage isPassage).settled mode settled
  have parameters_eq : scenario.equipment.vehicle.chargeParameters passage.session.onboard =
      scenario.onboard.simulator.chargeParameters := by
    show passage.session.onboard.simulator.chargeParameters = _
    rw [Simulator.chargeParameters, scenario.settings_eq passage isPassage]
    rfl
  rw [scenario.statement_eq_chargeParametersOf passage isPassage content states,
    Turn.chargeParametersOf, settled, mode_eq, parameters_eq]
  rfl

/-- All statements of a scenario are the same, and they are consistent if the wanted mode is of the
kind of current of the vehicle's own. -/
theorem statements_eq_replicate (scenario : Scenario) :
    scenario.statements = List.replicate scenario.statements.length scenario.statement ∧
      scenario.statement.isConsistent =
        (scenario.wantedMode.isAc == scenario.ownMode.isAc) := by
  refine ⟨List.eq_replicate_iff.mpr ⟨rfl, fun content isStatement => ?_⟩,
    scenario.isConsistent_statement⟩
  obtain ⟨sending, isSent, states⟩ := List.mem_filterMap.mp isStatement
  rw [scenario.sent_run] at isSent
  obtain ⟨passage, isPassage, rfl⟩ := List.mem_map.mp isSent
  exact scenario.statement_eq passage isPassage content states

/-! ## A resumed mode of the other kind of current -/

/-- A vehicle for direct current that resumes a session under alternating current. -/
def resumedUnderAc : Scenario :=
  { ofResponses .dcCore ((responsesUpToPower .acThreePhaseCore).take 4) with
    resume := some { paymentOption := none, energyMode := some .acThreePhaseCore } }

/-- The parameters that the vehicle states are not those for the mode that it asks for. -/
theorem exists_inconsistent_statement :
    ∃ content ∈ resumedUnderAc.statements, content.isConsistent = false := by
  decide +kernel

end Scenario
end PlugAndCharge
