import PlugAndCharge.Proofs.Scenario

/-!
# Stopping for the station

A station asks for the end of charging with the report of a round or with the confirmation of a
receipt.  A receipt that is due comes first, and then the confirmation of the receipt has to ask
again.  Otherwise the request stands: the power is switched off and the session ends.
-/

namespace PlugAndCharge

/-! ## Requests to stop -/

namespace RoundReport

/-- Whether a receipt is due after a round: the station requires one, over a protected connection.
-/
def receiptDue (report : RoundReport) (isTls : Bool) : Bool :=
  report.receiptRequired && isTls

/-- Whether a round is the last one for the station, and no receipt is due. -/
def ordersStop (report : RoundReport) (isTls : Bool) : Bool :=
  !report.receiptDue isTls && report.notification == .stopCharging

end RoundReport

namespace Response

/-- Whether a receipt is due after a response. -/
def receiptDue (isTls : Bool) : Response → Bool
  | .chargingStatus content => content.report.receiptDue isTls
  | .currentDemand content => content.report.receiptDue isTls
  | _ => false

/-- Whether a response carries a request to stop: the report of a round by its status, and the
confirmation of a receipt by the status for the kind of current. -/
def carriesStop (isAc : Bool) : Response → Bool
  | .chargingStatus content => content.report.notification == .stopCharging
  | .currentDemand content => content.report.notification == .stopCharging
  | .meteringReceipt content =>
    if isAc then content.acStatus.any fun status => status.notification == .stopCharging
    else content.dcStatus.any fun status => status.notification == .stopCharging
  | _ => false

/-- Whether a response carries a request to stop that the vehicle heeds: the report of a round if no
receipt is due, and the confirmation of a receipt by its status for alternating current if it has
one, else by the one for direct current. -/
def ordersStop (isTls : Bool) : Response → Bool
  | .chargingStatus content => content.report.ordersStop isTls
  | .currentDemand content => content.report.ordersStop isTls
  | .meteringReceipt content => content.notification == .stopCharging
  | _ => false

end Response

/-! ## What follows from them -/

namespace Turn

variable {ω : Type} {equipment : Equipment ω} {session after : Session ω} {next : Step}
  {now : Milliseconds} {header : Header} {response : Response}

theorem move_of_stopCharging {stop : SessionEnd}
    (responded : stopCharging stop session = .ok next after) :
    next.request.move = .power .stop := by
  obtain ⟨schedule, -, -, rfl⟩ := changePower_eq_ok.mp (stopCharging_eq_ok.mp responded)
  rfl

private theorem move_of_afterRound_ordersStop {report : RoundReport} {another : Turn ω Step}
    (orders : report.ordersStop session.context.isTls = true)
    (responded : afterRound equipment report another session = .ok next after) :
    next.request.move = .power .stop := by
  obtain ⟨notDue, stops⟩ : report.receiptDue session.context.isTls = false ∧
      report.notification = .stopCharging := by
    simpa [RoundReport.ordersStop] using orders
  obtain ⟨required, isTls, -⟩ | ⟨-, responded⟩ := afterRound_eq_ok.mp responded
  · simp [RoundReport.receiptDue, required, isTls] at notDue
  · rw [stops] at responded
    exact move_of_stopCharging responded

private theorem move_of_afterRound_receiptDue {report : RoundReport} {another : Turn ω Step}
    (due : report.receiptDue session.context.isTls = true)
    (responded : afterRound equipment report another session = .ok next after) :
    next.request.move = .giveReceipt := by
  obtain ⟨-, -, meterInfo, -, responded⟩ | ⟨notDue, -⟩ := afterRound_eq_ok.mp responded
  · obtain ⟨signature, -, -, rfl⟩ := sendReceipt_eq_ok.mp responded
    rfl
  · exact absurd (Bool.and_eq_true_iff.mp due) notDue

/-- A request to stop that the vehicle heeds is followed by switching the power off. -/
theorem move_of_ordersStop (orders : response.ordersStop session.context.isTls = true)
    (responded : respond equipment now header response session = .ok (.next next) after) :
    next.request.move = .power .stop := by
  cases response with
  | chargingStatus content => exact move_of_afterRound_ordersStop orders (next_eq_ok.mp responded)
  | currentDemand content => exact move_of_afterRound_ordersStop orders (next_eq_ok.mp responded)
  | meteringReceipt content =>
      have stops : content.notification = .stopCharging := beq_iff_eq.mp orders
      have responded := next_eq_ok.mp responded
      rw [meteringReceipt, stops] at responded
      exact move_of_stopCharging responded
  | _ => cases orders

/-- A receipt that is due is what follows. -/
theorem move_of_receiptDue (due : response.receiptDue session.context.isTls = true)
    (responded : respond equipment now header response session = .ok (.next next) after) :
    next.request.move = .giveReceipt := by
  cases response with
  | chargingStatus content => exact move_of_afterRound_receiptDue due (next_eq_ok.mp responded)
  | currentDemand content => exact move_of_afterRound_receiptDue due (next_eq_ok.mp responded)
  | _ => cases due

end Turn

/-! ## Runs -/

/-- Whether a move is a round of charging. -/
def Move.isRound : Move → Bool
  | .round _ => true
  | _ => false

theorem Move.isRound_eq_false {move : Move} (ending : move.isEnding = true) :
    move.isRound = false := by
  cases move with
  | round isAc => cases ending
  | _ => rfl

theorem Move.isEnding_of_mem_successors {move next : Move} {isAc : Bool}
    (ending : move.isEnding = true) (follows : next ∈ move.successors isAc) :
    next.isEnding = true := by
  cases move with
  | power progress =>
      cases progress with
      | stop =>
          rw [List.mem_singleton.mp follows]
          rfl
      | start | renegotiate => cases ending
  | stop => cases follows
  | _ => cases ending

namespace Scenario

/-- The station asks for the end of charging in a passage, and the vehicle heeds that. -/
def Stops (scenario : Scenario) (passage : Passage Onboard) : Prop :=
  (passage.accepted?.any fun response => response.ordersStop scenario.isTls) = true

/-- If a passage stops charging or belongs to the end, then another one belongs to the end. -/
def EndsBefore (scenario : Scenario) (first second : Passage Onboard) : Prop :=
  scenario.Stops first ∨ first.move.isEnding = true → second.move.isEnding = true

instance (scenario : Scenario) :
    Trans scenario.EndsBefore scenario.EndsBefore scenario.EndsBefore where
  trans earlier later stops := later (.inr (earlier stops))

private theorem isChain_endsBefore (scenario : Scenario) :
    scenario.passages.IsChain scenario.EndsBefore := by
  refine scenario.isChain.imp_of_mem_imp fun first second isFirst isSecond leads => ?_
  rintro (orders | ending)
  · obtain ⟨after, led, -⟩ := leads
    obtain ⟨message, response, received, validated, responded⟩ := Passage.result_eq_ok.mp led
    rw [Stops, Passage.accepted?_eq_some.mpr ⟨message, received, validated⟩,
      ← scenario.isTls_eq first isFirst] at orders
    have stops : second.move = .power .stop := Turn.move_of_ordersStop orders responded
    rw [stops]
    rfl
  · obtain ⟨-, follows⟩ := leads.fits scenario.onlyStarts (scenario.fits first isFirst)
    exact Move.isEnding_of_mem_successors ending follows

/-- A request to stop that is heeded stands: no round of charging is sent after it.  What is sent
after a response with which a receipt is due is that receipt. -/
theorem no_round_after_ordersStop (scenario : Scenario) :
    scenario.run.sent = scenario.passages.map Passage.sending ∧
      (scenario.passages.Pairwise fun passage later =>
        scenario.Stops passage → later.move.isRound = false) ∧
      scenario.passages.IsChain fun passage next =>
        (passage.accepted?.any fun response => response.receiptDue scenario.isTls) = true →
          next.move = .giveReceipt := by
  refine ⟨scenario.sent_run, ?_, ?_⟩
  · have pairwise := List.isChain_iff_pairwise.mp scenario.isChain_endsBefore
    exact pairwise.imp fun ends stops => Move.isRound_eq_false (ends (.inl stops))
  · refine scenario.isChain.imp_of_mem_imp fun first second isFirst isSecond leads due => ?_
    obtain ⟨after, led, -⟩ := leads
    obtain ⟨message, response, received, validated, responded⟩ := Passage.result_eq_ok.mp led
    rw [Passage.accepted?_eq_some.mpr ⟨message, received, validated⟩,
      ← scenario.isTls_eq first isFirst] at due
    exact Turn.move_of_receiptDue due responded

/-! ## Requests to stop that are lost -/

/-- In a scenario every request to stop stands that comes with the report of a round, or with the
confirmation of a receipt in the status for the kind of current. -/
def HeedsEveryStop (scenario : Scenario) : Prop :=
  scenario.passages.Pairwise fun passage later =>
    (passage.accepted?.any fun response =>
        response.carriesStop scenario.run.session.context.isAc) = true →
      later.move.isRound = false

instance (scenario : Scenario) : Decidable scenario.HeedsEveryStop := by
  unfold HeedsEveryStop
  infer_instance

/-- A protected session in which the station gives these responses one after another, to a vehicle
whose signatures are all alike. -/
def ofResponses (mode : EnergyTransferMode) (responses : List Response) : Scenario where
  suite := Suite.standard
  credentials :=
    { certificate := fun _ _ => .error (.signatureInvalid .missing)
      chain := fun _ _ _ => .error (.signatureInvalid .missing)
      rootIds := fun _ => .error (.signatureInvalid .missing)
      commonName := fun _ _ => .error (.signatureInvalid .missing)
      sign := fun _ _ _ => .ok
        { signedInfo :=
            { canonicalizationMethod := "", signatureMethod := "", references := [] }
          signatureValue := [] }
      verify := fun _ _ _ _ _ _ => .error (.signatureInvalid .missing)
      decryptKey := fun _ _ _ _ => .error (.signatureInvalid .missing) }
  onboard :=
    { simulator := Simulator.start { VehicleSettings.standard with energyMode := mode } false
      directory := Directory.empty "" }
  evccId := []
  isTls := true
  timeouts := Timeouts.standard
  peer := none
  resume := none
  cancelAt := none
  replies := responses.map fun response =>
    .arrival
      (.ok
        { header := { sessionId := SessionId.unassigned, signature := none }
          body := .response response })
      0

/-- What a station responds up to the first round of charging. -/
def responsesUpToPower (mode : EnergyTransferMode) : List Response :=
  [.sessionSetup { responseCode := .ok, evseId := "", timeStamp := none },
    .serviceDiscovery {
      responseCode := .ok
      paymentOptions := []
      chargeService := some {
        serviceId := 1
        serviceName := none
        serviceCategory := .evCharging
        freeService := true
        supportedModes := [mode] }
      serviceList := none },
    .paymentServiceSelection { responseCode := .ok },
    .authorization { responseCode := .ok, processing := .finished },
    .chargeParameterDiscovery {
      responseCode := .ok
      processing := .finished
      schedules := some [{ id := 1, pMaxSchedule := [] }]
      acStatus := none
      dcStatus := none },
    .powerDelivery { responseCode := .ok, acStatus := none, dcStatus := none }]

/-- A meter reading. -/
def meterInfo : MeterInfo where
  meterId := ""
  meterReading := none
  sigMeterReading := none
  meterStatus := none
  tMeter := none

/-- The report of a round under alternating current, with which the station asks for a receipt and
for the end of charging; the confirmation of the receipt does not ask again. -/
def receiptFirst : Scenario :=
  ofResponses .acThreePhaseCore
    (responsesUpToPower .acThreePhaseCore ++
      [.chargingStatus {
        responseCode := .ok
        evseId := ""
        scheduleTupleId := 1
        maxCurrent := none
        meterInfo := some meterInfo
        receiptRequired := some true
        acStatus := { notificationMaxDelay := 0, notification := .stopCharging, rcd := false } },
      .meteringReceipt { responseCode := .ok, acStatus := none, dcStatus := none }])

/-- The confirmation of a receipt under direct current, with which the station asks for the end of
charging in the status for that, but not in the one for alternating current. -/
def hiddenStop : Scenario :=
  ofResponses .dcCore
    (responsesUpToPower .dcCore ++
      [.currentDemand {
        responseCode := .ok
        dcStatus := {
          notificationMaxDelay := 0
          notification := .none
          isolationStatus := none
          statusCode := .ready }
        presentVoltage := { value := 400, multiplier := 0, unit := .volt }
        presentCurrent := { value := 32, multiplier := 0, unit := .ampere }
        currentLimitAchieved := false
        voltageLimitAchieved := false
        powerLimitAchieved := false
        maximumVoltage := none
        maximumCurrent := none
        maximumPower := none
        evseId := ""
        scheduleTupleId := 1
        meterInfo := some meterInfo
        receiptRequired := some true },
      .meteringReceipt {
        responseCode := .ok
        acStatus := some { notificationMaxDelay := 0, notification := .none, rcd := false }
        dcStatus := some {
          notificationMaxDelay := 0
          notification := .stopCharging
          isolationStatus := none
          statusCode := .ready } }])

/-- A request to stop is lost if a receipt comes before it, and if a status for alternating current
stands before the one that carries it. -/
theorem not_heedsEveryStop : ¬receiptFirst.HeedsEveryStop ∧ ¬hiddenStop.HeedsEveryStop := by
  decide +kernel

end Scenario
end PlugAndCharge
