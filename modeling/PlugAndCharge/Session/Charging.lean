import PlugAndCharge.Session.Turn

/-!
# Charging

The station gives leave to charge and offers schedules; the vehicle chooses one, switches the power
on and then goes round after round until one of the two wants to stop or to agree on the power anew.
-/

namespace PlugAndCharge

/-- What the vehicle looks at in the report of a round of charging. -/
structure RoundReport where
  receiptRequired : Bool
  scheduleTupleId : UInt8
  meterInfo : Option MeterInfo
  notification : EvseNotification
  deriving DecidableEq, Repr

/-- The report of a round under alternating current. -/
def ChargingStatusRes.report (content : ChargingStatusRes) : RoundReport where
  receiptRequired := content.receiptRequired.getD false
  scheduleTupleId := content.scheduleTupleId
  meterInfo := content.meterInfo
  notification := content.acStatus.notification

/-- The report of a round under direct current. -/
def CurrentDemandRes.report (content : CurrentDemandRes) : RoundReport where
  receiptRequired := content.receiptRequired.getD false
  scheduleTupleId := content.scheduleTupleId
  meterInfo := content.meterInfo
  notification := content.dcStatus.notification

/-- What a station notifies with the confirmation of a receipt: under alternating current if that
has a status, else under direct current. -/
def MeteringReceiptRes.notification (content : MeteringReceiptRes) : EvseNotification :=
  match content.acStatus, content.dcStatus with
  | some status, _ => status.notification
  | none, some status => status.notification
  | none, none => .none

namespace Turn

variable {ω : Type}

/-! ## Leave to charge -/

/-- What the vehicle can take, in the mode that it has settled on. -/
def chargeParameterRequest (equipment : Equipment ω) : Turn ω ChargeParameterDiscoveryReq := do
  let context ← Turn.context
  let parameters ← ask equipment.vehicle.chargeParameters
  return {
    maxEntries := none
    requestedMode := context.energyMode.getD parameters.energyMode
    acParameters := parameters.ac
    dcParameters := parameters.dc }

/-- Sends a request again while the station is still working on it, and awaits the response of an
exchange. -/
def sendAgain (now : Milliseconds) (awaited : Exchange) (request : Request) : Turn ω Step := do
  let step ← send awaited request
  let timeout ← alter fun context =>
    context.noteOngoing (.response request.exchange) step.timeout now
  return step.asRepetition timeout

/-- The station has given leave to charge, or is still working on it. -/
def authorization (equipment : Equipment ω) (now : Milliseconds) (content : AuthorizationRes) :
    Turn ω Step :=
  if content.processing.isFinished then do
    update Context.noteFinished
    let request ← chargeParameterRequest equipment
    send .chargeParameterDiscovery (.chargeParameterDiscovery request)
  else sendAgain now .authorization (.authorization { id := none, genChallenge := none })

/-- The station has offered schedules, or is still working on them. -/
def chargeParameterDiscovery (equipment : Equipment ω) (now : Milliseconds)
    (content : ChargeParameterDiscoveryRes) : Turn ω Step :=
  if content.processing.isFinished then do
    update Context.noteFinished
    let selection ← act (equipment.vehicle.chooseSchedule (content.schedules.getD []))
    update fun context => { context with schedule := some selection.scheduleId }
    send .powerDelivery (.powerDelivery {
      chargeProgress := selection.chargeProgress
      scheduleTupleId := selection.scheduleId
      chargingProfile := selection.chargingProfile })
  else do
    let request ← chargeParameterRequest equipment
    sendAgain now .chargeParameterDiscovery (.chargeParameterDiscovery request)

/-! ## Rounds of charging -/

/-- Begins a round under direct current. -/
def demandCurrent (equipment : Equipment ω) : Turn ω Step := do
  let demand ← act equipment.vehicle.currentDemand
  send .currentDemand (.currentDemand demand)

/-- Begins a round in the mode that the vehicle has settled on. -/
def nextRound (equipment : Equipment ω) : Turn ω Step := do
  let context ← Turn.context
  if context.isAc then send .chargingStatus (.chargingStatus {}) else demandCurrent equipment

/-- Changes the power on the chosen schedule. -/
def changePower (progress : ChargeProgress) : Turn ω Step := do
  let scheduleTupleId ← consult Context.selectedSchedule
  send .powerDelivery
    (.powerDelivery { chargeProgress := progress, scheduleTupleId, chargingProfile := none })

/-- Switches the power off; the session ends once the station has confirmed that. -/
def stopCharging (stop : SessionEnd) : Turn ω Step := do
  update fun context => context.requestStop stop
  changePower .stop

/-- Has the power agreed on anew once the station has confirmed that. -/
def renegotiate : Turn ω Step := do
  update fun context => { context with isRenegotiating := true }
  changePower .renegotiate

/-- Does what the station asks for, and otherwise something else. -/
def heed (notification : EvseNotification) (otherwise : Turn ω Step) : Turn ω Step :=
  match notification with
  | .stopCharging => stopCharging .terminate
  | .renegotiation => renegotiate
  | .none => otherwise

/-- Goes on to another round, if the vehicle wants one. -/
def continueOrStop (equipment : Equipment ω) (another : Turn ω Step) : Turn ω Step := do
  let goesOn ← choose equipment.vehicle.continueCharging
  if goesOn then another
  else do
    let wantsPause ← ask equipment.vehicle.wantsPause
    stopCharging (if wantsPause then .pause else .terminate)

/-- Confirms a meter reading with the contract key. -/
def sendReceipt (equipment : Equipment ω) (scheduleTupleId : UInt8) (meterInfo : MeterInfo) :
    Turn ω Step := do
  let context ← Turn.context
  sendSigned equipment.credentials .contractLeaf
    ({ id := signedElementId, sessionId := context.headerId,
       scheduleTupleId := some scheduleTupleId, meterInfo } : MeteringReceiptReq)
    .meteringReceipt .meteringReceipt

/-- The station has reported on a round.  A receipt that it wants over a protected connection comes
before all else. -/
def afterRound (equipment : Equipment ω) (report : RoundReport) (another : Turn ω Step) :
    Turn ω Step := do
  let context ← Turn.context
  if report.receiptRequired ∧ context.isTls then
    match report.meterInfo with
    | some meterInfo => sendReceipt equipment report.scheduleTupleId meterInfo
    | none => fail (.incompatible .receiptWithoutMeter)
  else heed report.notification (continueOrStop equipment another)

/-- The station has confirmed the state of the power. -/
def powerDelivery (equipment : Equipment ω) : Turn ω Step := do
  let context ← Turn.context
  match context.stop with
  | some stop => send .sessionStop (.sessionStop { chargingSession := stop })
  | none =>
    if context.isRenegotiating then do
      update fun context => { context with isRenegotiating := false }
      let request ← chargeParameterRequest equipment
      send .chargeParameterDiscovery (.chargeParameterDiscovery request)
    else nextRound equipment

/-- The station has reported on a round under alternating current. -/
def chargingStatus (equipment : Equipment ω) (content : ChargingStatusRes) : Turn ω Step :=
  afterRound equipment content.report (send .chargingStatus (.chargingStatus {}))

/-- The station has reported on a round under direct current. -/
def currentDemand (equipment : Equipment ω) (content : CurrentDemandRes) : Turn ω Step :=
  afterRound equipment content.report (demandCurrent equipment)

/-- The station has taken the receipt of a meter reading. -/
def meteringReceipt (equipment : Equipment ω) (content : MeteringReceiptRes) : Turn ω Step :=
  heed content.notification (nextRound equipment)

/-! ## The end -/

/-- The station has confirmed the end of the session. -/
def sessionStop : Turn ω StopReason := do
  let context ← Turn.context
  let reason :=
    match context.stop with
    | some .pause => StopReason.success "paused" context.peer (some context.choices)
    | some .terminate | none => StopReason.success "terminated" context.peer none
  update fun context => { context with stopReason := some reason }
  return reason

end Turn

end PlugAndCharge
