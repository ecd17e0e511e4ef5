import PlugAndCharge.Proofs.Course
import PlugAndCharge.Proofs.Reaction

/-!
# How context and request fit together

While a response is awaited, the request that is outstanding determines which parts of the context
are set.  `Context.Fits` holds at the start of a session, and every response that is answered with
another request leads from a fitting context to a fitting one and from a move to one of its
successors.
-/

namespace PlugAndCharge

namespace Move

/-- The exchange that a move opens. -/
def exchange : Move → Exchange
  | .setUp => .sessionSetup
  | .discover => .serviceDiscovery
  | .askForDetails => .serviceDetail
  | .select => .paymentServiceSelection
  | .install => .certificateInstallation
  | .present => .paymentDetails
  | .authorize => .authorization
  | .offerParameters => .chargeParameterDiscovery
  | .power _ => .powerDelivery
  | .round true => .chargingStatus
  | .round false => .currentDemand
  | .giveReceipt => .meteringReceipt
  | .stop => .sessionStop

/-- The move that opens an exchange, with the progress of the charging that a power delivery asks
for. -/
def ofExchange (progress : ChargeProgress) : Exchange → Move
  | .sessionSetup => .setUp
  | .serviceDiscovery => .discover
  | .serviceDetail => .askForDetails
  | .paymentServiceSelection => .select
  | .certificateInstallation => .install
  | .paymentDetails => .present
  | .authorization => .authorize
  | .chargeParameterDiscovery => .offerParameters
  | .powerDelivery => .power progress
  | .chargingStatus => .round true
  | .currentDemand => .round false
  | .meteringReceipt => .giveReceipt
  | .sessionStop => .stop

theorem exists_eq_ofExchange (move : Move) :
    ∃ progress, move = ofExchange progress move.exchange := by
  cases move with
  | power progress => exact ⟨progress, rfl⟩
  | round isAc => cases isAc <;> exact ⟨.start, rfl⟩
  | _ => exact ⟨.start, rfl⟩

/-- Whether a move takes a session that has its identifiers. -/
def isNamed : Move → Bool
  | .setUp => false
  | _ => true

/-- Whether a move takes a session that has settled on a way to pay and a mode. -/
def isSettled : Move → Bool
  | .setUp | .discover => false
  | _ => true

/-- Whether a move takes a session in which a schedule has been chosen. -/
def isScheduled : Move → Bool
  | .power _ | .round _ | .giveReceipt | .stop => true
  | _ => false

/-- Whether a move is there to agree on the power anew. -/
def isRenegotiation : Move → Bool
  | .power .renegotiate => true
  | _ => false

/-- Whether a move belongs to the end of a session. -/
def isEnding : Move → Bool
  | .power .stop | .stop => true
  | _ => false

/-- Whether a move is possible under a kind of current. -/
def runsOn (isAc : Bool) : Move → Bool
  | .round current => current == isAc
  | _ => true

end Move

@[simp] theorem Request.exchange_move (request : Request) :
    request.move.exchange = request.exchange := by
  cases request <;> rfl

namespace Request

variable {request : Request}

theorem exists_sessionStop (stops : request.exchange = .sessionStop) :
    ∃ content, request = .sessionStop content := by
  cases request with
  | sessionStop content => exact ⟨content, rfl⟩
  | _ => cases stops

theorem exists_paymentServiceSelection (selects : request.exchange = .paymentServiceSelection) :
    ∃ content, request = .paymentServiceSelection content := by
  cases request with
  | paymentServiceSelection content => exact ⟨content, rfl⟩
  | _ => cases selects

theorem exists_chargeParameterDiscovery
    (states : request.exchange = .chargeParameterDiscovery) :
    ∃ content, request = .chargeParameterDiscovery content := by
  cases request with
  | chargeParameterDiscovery content => exact ⟨content, rfl⟩
  | _ => cases states

end Request

/-- A vehicle that answers every offer of schedules with switching the power on. -/
def Vehicle.OnlyStarts {ω : Type} (vehicle : Vehicle ω) : Prop :=
  ∀ schedules state selection, (vehicle.chooseSchedule schedules state).1 = .ok selection →
    selection.chargeProgress = .start

/-- What the context holds while the response to a request is awaited. -/
structure Context.Fits (context : Context) (move : Move) : Prop where
  named : context.sessionId.isSome = move.isNamed
  placed : context.evseId.isSome = move.isNamed
  paymentSettled : context.paymentOption.isSome = move.isSettled
  modeSettled : context.energyMode.isSome = move.isSettled
  resumed : move.isSettled = true → context.resume = none
  nonePending : context.pendingDetails = []
  scheduled : move.isScheduled = true → context.schedule.isSome = true
  renegotiating : context.isRenegotiating = move.isRenegotiation
  stopping : context.stop.isSome = move.isEnding
  current : move.runsOn context.isAc = true

namespace Context.Fits

open Turn

theorem start (evccId : Octets) (isTls : Bool) (timeouts : Timeouts) (peer : Option String)
    (resume : Option Choices) : (Context.start evccId isTls timeouts peer resume).Fits .setUp where
  named := rfl
  placed := rfl
  paymentSettled := rfl
  modeSettled := rfl
  resumed := nofun
  nonePending := rfl
  scheduled := nofun
  renegotiating := rfl
  stopping := rfl
  current := rfl

/-- Sending a request changes nothing but what is noted about the time. -/
theorem requestSent {context : Context} {move : Move} (fits : context.Fits move)
    (repeated : Bool) (now : Milliseconds) : (context.requestSent repeated now).Fits move := by
  cases repeated with
  | true => exact fits
  | false => exact { fits with }

end Context.Fits

/-- A session goes on from a move as it may: its context fits the next request, which is a
successor of the move. -/
structure Session.GoesOn {ω : Type} (session : Session ω) (move : Move) (next : Step) : Prop where
  fits : session.context.Fits next.request.move
  follows : next.request.move ∈ move.successors session.context.isAc

/-- Where the power may be switched on, a round may also follow a receipt. -/
private theorem Session.GoesOn.ofRound {ω : Type} {session : Session ω} {next : Step}
    (goesOn : session.GoesOn (.power .start) next) : session.GoesOn .giveReceipt next :=
  ⟨goesOn.fits, List.mem_cons.mpr (.inl (List.mem_singleton.mp goesOn.follows))⟩

namespace Context.Fits

open Turn

variable {ω : Type} {equipment : Equipment ω} {session after : Session ω} {next : Step}
  {move : Move} {now : Milliseconds}

/-! ## Setting up -/

theorem sessionSetup {sessionId : SessionId} {content : SessionSetupRes}
    (fits : session.context.Fits .setUp)
    (responded : Turn.sessionSetup sessionId content session = .ok next after) :
    after.GoesOn .setUp next := by
  obtain ⟨-, -, rfl, rfl⟩ := sessionSetup_eq_ok.mp responded
  exact ⟨{ fits with named := rfl, placed := rfl, resumed := nofun }, .head _⟩

/-- With the details of at most one service to be asked for, they are asked for or the selection is
sent. -/
private theorem nextDetailsOrSelection (context : Context) {onboard : ω}
    (fits : ({ context with pendingDetails := [] } : Context).Fits .select)
    (atMostOne : context.pendingDetails.length ≤ 1)
    (responded : Turn.nextDetailsOrSelection { context, onboard } = .ok next after) :
    after.GoesOn .discover next ∧ (context.pendingDetails = [] → next.request.move = .select) := by
  obtain ⟨none, rfl, rfl⟩ | ⟨serviceId, rest, pending, rfl, rfl⟩ :=
    nextDetailsOrSelection_eq_ok.mp responded
  · exact ⟨⟨{ fits with nonePending := none }, .tail _ (.head _)⟩, fun _ => rfl⟩
  · replace pending : context.pendingDetails = serviceId :: rest := pending
    obtain rfl : rest = [] := by
      rw [pending, List.length_cons] at atMostOne
      exact List.eq_nil_of_length_eq_zero (by omega)
    exact ⟨⟨{ fits with }, .head _⟩, fun nothing => by simp [nothing] at pending⟩

theorem serviceDiscovery {content : ServiceDiscoveryRes} (fits : session.context.Fits .discover)
    (responded : Turn.serviceDiscovery equipment content session = .ok next after) :
    after.GoesOn .discover next := by
  obtain ⟨chargeService, -, -, responded⟩ := serviceDiscovery_eq_ok.mp responded
  rw [Context.takeOffer_eq] at responded
  refine (nextDetailsOrSelection _ ?_ ?_ responded).1
  · exact { fits with
      paymentSettled := rfl
      modeSettled := rfl
      resumed := fun _ => rfl
      nonePending := rfl }
  · simp only [fits.nonePending, List.append_nil, List.length_map]
    exact Option.length_toList_le

theorem serviceDetail {content : ServiceDetailRes} (fits : session.context.Fits .askForDetails)
    (responded : Turn.serviceDetail content session = .ok next after) :
    after.GoesOn .askForDetails next := by
  obtain ⟨goesOn, selects⟩ :=
    nextDetailsOrSelection session.context { fits with nonePending := rfl }
      (by simp [fits.nonePending]) responded
  exact ⟨goesOn.fits, by simp [selects fits.nonePending, Move.successors]⟩

theorem paymentServiceSelection (fits : session.context.Fits .select)
    (responded : Turn.paymentServiceSelection equipment session = .ok next after) :
    after.GoesOn .select next := by
  obtain ⟨-, rfl, rfl⟩ | ⟨-, -, responded⟩ | ⟨-, -, responded⟩ :=
    paymentServiceSelection_eq_ok.mp responded
  · exact ⟨{ fits with }, by simp [Move.successors, Step.ofRequest, Request.move]⟩
  · obtain ⟨_, _, _, -, -, -, rfl, rfl⟩ := requestContract_eq_ok.mp responded
    exact ⟨{ fits with }, by simp [Move.successors, Step.ofRequest, Request.move]⟩
  · obtain ⟨_, _, -, -, rfl, rfl⟩ := presentContract_eq_ok.mp responded
    exact ⟨{ fits with }, by simp [Move.successors, Step.ofRequest, Request.move]⟩

/-! ## Contracts -/

theorem certificateInstallation {signature : Option Signature}
    {content : CertificateInstallationRes} (fits : session.context.Fits .install)
    (responded : Turn.certificateInstallation equipment signature content session =
      .ok next after) :
    after.GoesOn .install next := by
  obtain ⟨_, _, -, -, -, rfl, -, rfl⟩ := certificateInstallation_eq_ok.mp responded
  exact ⟨{ fits with }, .head _⟩

theorem paymentDetails {content : PaymentDetailsRes} (fits : session.context.Fits .present)
    (responded : Turn.paymentDetails equipment content session = .ok next after) :
    after.GoesOn .present next := by
  obtain ⟨_, -, rfl, rfl⟩ := paymentDetails_eq_ok.mp responded
  exact ⟨{ fits with }, .head _⟩

/-! ## Leave to charge -/

/-- A request that is sent again fits as it did before. -/
private theorem sendAgain {awaited : Exchange} {request : Request}
    (fits : session.context.Fits request.move)
    (responded : Turn.sendAgain now awaited request session = .ok next after) :
    after.context.Fits next.request.move ∧ next.request = request := by
  obtain ⟨_, noted, -, rfl⟩ := sendAgain_eq_ok.mp responded
  obtain ⟨-, -, changed⟩ := Context.noteOngoing_eq_ok.mp noted
  rw [changed]
  exact ⟨{ fits with }, rfl⟩

theorem authorization {content : AuthorizationRes} (fits : session.context.Fits .authorize)
    (responded : Turn.authorization equipment now content session = .ok next after) :
    after.GoesOn .authorize next := by
  obtain ⟨-, rfl, rfl⟩ | ⟨-, responded⟩ := authorization_eq_ok.mp responded
  · exact ⟨{ fits with }, .tail _ (.head _)⟩
  · obtain ⟨fits, repeated⟩ := sendAgain fits responded
    exact ⟨fits, by simp [repeated, Request.move, Move.successors]⟩

theorem chargeParameterDiscovery {content : ChargeParameterDiscoveryRes}
    (starts : equipment.vehicle.OnlyStarts) (fits : session.context.Fits .offerParameters)
    (responded : Turn.chargeParameterDiscovery equipment now content session = .ok next after) :
    after.GoesOn .offerParameters next := by
  obtain ⟨-, selection, selected, rfl, rfl⟩ | ⟨-, responded⟩ :=
    chargeParameterDiscovery_eq_ok.mp responded
  · have start : selection.chargeProgress = .start := starts _ _ _ selected
    have move_eq (content : PowerDeliveryReq) (begins : content.chargeProgress = .start) :
        (Request.powerDelivery content).move = .power .start := congrArg Move.power begins
    refine ⟨?_, ?_⟩
    · rw [Step.ofRequest, move_eq _ start]
      exact { fits with scheduled := fun _ => rfl }
    · rw [Step.ofRequest, move_eq _ start]
      exact .tail _ (.head _)
  · obtain ⟨fits, repeated⟩ := sendAgain fits responded
    exact ⟨fits, by simp [repeated, Request.move, Move.successors]⟩

/-! ## Rounds of charging -/

/-- Once the power is on, what a context holds depends on the move no more. -/
private theorem powered (fits : session.context.Fits (.power .start)) :
    session.context.Fits .giveReceipt :=
  { fits with }

private theorem charging {isAc : Bool} (fits : session.context.Fits (.round isAc)) :
    session.context.Fits .giveReceipt :=
  { fits with current := rfl }

private theorem demandCurrent (fits : session.context.Fits .giveReceipt)
    (direct : session.context.isAc = false)
    (responded : Turn.demandCurrent equipment session = .ok next after) :
    after.GoesOn (.power .start) next := by
  obtain ⟨demand, -, rfl, rfl⟩ := demandCurrent_eq_ok.mp responded
  refine ⟨{ fits with current := ?_ }, ?_⟩
  · simp [Step.ofRequest, Request.move, Move.runsOn, direct]
  · simp [Step.ofRequest, Request.move, Move.successors, direct]

private theorem nextRound (fits : session.context.Fits .giveReceipt)
    (responded : Turn.nextRound equipment session = .ok next after) :
    after.GoesOn (.power .start) next := by
  obtain ⟨alternating, rfl, rfl⟩ | ⟨direct, responded⟩ := nextRound_eq_ok.mp responded
  · refine ⟨{ fits with current := ?_ }, ?_⟩
    · simp [Step.ofRequest, Request.move, Move.runsOn, alternating]
    · simp [Step.ofRequest, Request.move, Move.successors, alternating]
  · exact demandCurrent fits direct responded

private theorem changePower {progress : ChargeProgress}
    (fits : session.context.Fits (.power progress))
    (follows : .power progress ∈ Move.giveReceipt.successors session.context.isAc)
    (responded : Turn.changePower progress session = .ok next after) :
    after.GoesOn .giveReceipt next := by
  obtain ⟨schedule, -, rfl, rfl⟩ := changePower_eq_ok.mp responded
  exact ⟨fits, follows⟩

private theorem stopCharging {stop : SessionEnd} (fits : session.context.Fits .giveReceipt)
    (responded : Turn.stopCharging stop session = .ok next after) :
    after.GoesOn .giveReceipt next := by
  refine changePower ?_ ?_ (stopCharging_eq_ok.mp responded)
  · refine { fits with stopping := ?_ }
    simp [Context.requestStop, Move.isEnding]
  · simp [Move.successors]

private theorem renegotiate (fits : session.context.Fits .giveReceipt)
    (responded : Turn.renegotiate session = .ok next after) :
    after.GoesOn .giveReceipt next := by
  refine changePower ?_ ?_ (renegotiate_eq_ok.mp responded)
  · exact { fits with renegotiating := rfl }
  · simp [Move.successors]

private theorem heed {notification : EvseNotification} {otherwise : Turn ω Step}
    (fits : session.context.Fits .giveReceipt)
    (goesOn : otherwise session = .ok next after → after.GoesOn .giveReceipt next)
    (responded : Turn.heed notification otherwise session = .ok next after) :
    after.GoesOn .giveReceipt next := by
  cases notification with
  | none => exact goesOn responded
  | stopCharging => exact stopCharging fits responded
  | renegotiation => exact renegotiate fits responded

private theorem continueOrStop {another : Turn ω Step}
    (fits : session.context.Fits .giveReceipt)
    (goesOn : ∀ onboard, another { session with onboard } = .ok next after →
      after.GoesOn .giveReceipt next)
    (responded : Turn.continueOrStop equipment another session = .ok next after) :
    after.GoesOn .giveReceipt next := by
  obtain ⟨-, responded⟩ | ⟨-, responded⟩ := continueOrStop_eq_ok.mp responded
  · exact goesOn _ responded
  · refine stopCharging ?_ responded
    exact fits

/-- After a round there is a receipt, or what there may be after a receipt. -/
private theorem afterRound {report : RoundReport} {another : Turn ω Step} {isAc : Bool}
    (fits : session.context.Fits .giveReceipt)
    (goesOn : ∀ onboard, another { session with onboard } = .ok next after →
      after.GoesOn .giveReceipt next)
    (responded : Turn.afterRound equipment report another session = .ok next after) :
    after.GoesOn (.round isAc) next := by
  obtain ⟨-, -, meterInfo, -, responded⟩ | ⟨-, responded⟩ := afterRound_eq_ok.mp responded
  · obtain ⟨signature, -, rfl, rfl⟩ := sendReceipt_eq_ok.mp responded
    exact ⟨fits, .head _⟩
  · obtain ⟨fits, follows⟩ := heed fits (continueOrStop fits goesOn) responded
    exact ⟨fits, .tail _ follows⟩

theorem chargingStatus {content : ChargingStatusRes} (fits : session.context.Fits (.round true))
    (responded : Turn.chargingStatus equipment content session = .ok next after) :
    after.GoesOn (.round true) next := by
  have alternating : session.context.isAc = true := (beq_iff_eq.mp fits.current).symm
  refine afterRound (charging fits) (fun onboard another => ?_) responded
  obtain ⟨rfl, rfl⟩ := send_eq_ok.mp another
  exact ⟨{ fits with }, by simp [Step.ofRequest, Request.move, Move.successors, alternating]⟩

theorem currentDemand {content : CurrentDemandRes} (fits : session.context.Fits (.round false))
    (responded : Turn.currentDemand equipment content session = .ok next after) :
    after.GoesOn (.round false) next := by
  have direct : session.context.isAc = false := (beq_iff_eq.mp fits.current).symm
  refine afterRound (charging fits) (fun onboard another => ?_) responded
  refine (demandCurrent ?_ ?_ another).ofRound
  · exact charging fits
  · exact direct

theorem meteringReceipt {content : MeteringReceiptRes} (fits : session.context.Fits .giveReceipt)
    (responded : Turn.meteringReceipt equipment content session = .ok next after) :
    after.GoesOn .giveReceipt next := by
  refine heed fits (fun responded => ?_) responded
  exact (nextRound fits responded).ofRound

/-- What the station confirms tells the vehicle how to go on, since the flags say which state of
the power was asked for. -/
theorem powerDelivery {progress : ChargeProgress}
    (fits : session.context.Fits (.power progress))
    (responded : Turn.powerDelivery equipment session = .ok next after) :
    after.GoesOn (.power progress) next := by
  obtain ⟨stop, stopping, rfl, rfl⟩ | ⟨notStopping, renegotiating, rfl, rfl⟩ |
      ⟨notStopping, notRenegotiating, responded⟩ := powerDelivery_eq_ok.mp responded
  · have ending := fits.stopping
    rw [stopping] at ending
    cases progress with
    | stop => exact ⟨{ fits with }, .head _⟩
    | start | renegotiate => cases ending
  · have renegotiation := fits.renegotiating
    rw [renegotiating] at renegotiation
    cases progress with
    | renegotiate => exact ⟨{ fits with scheduled := nofun, renegotiating := rfl }, .head _⟩
    | start | stop => cases renegotiation
  · have ending := fits.stopping
    have renegotiation := fits.renegotiating
    rw [notStopping] at ending
    rw [notRenegotiating] at renegotiation
    cases progress with
    | start => exact nextRound (powered fits) responded
    | renegotiate => cases renegotiation
    | stop => cases ending

/-- Every response that is answered with a request leads from a fitting session to a fitting one.
-/
theorem respond {header : Header} {response : Response} (starts : equipment.vehicle.OnlyStarts)
    (fits : session.context.Fits move) (awaited : response.exchange = move.exchange)
    (responded : Turn.respond equipment now header response session = .ok (.next next) after) :
    after.GoesOn move next := by
  obtain ⟨progress, move_eq⟩ := move.exists_eq_ofExchange
  rw [← awaited] at move_eq
  subst move_eq
  cases response with
  | sessionSetup _ => exact sessionSetup fits (next_eq_ok.mp responded)
  | serviceDiscovery _ => exact serviceDiscovery fits (next_eq_ok.mp responded)
  | serviceDetail _ => exact serviceDetail fits (next_eq_ok.mp responded)
  | paymentServiceSelection _ => exact paymentServiceSelection fits (next_eq_ok.mp responded)
  | certificateInstallation _ => exact certificateInstallation fits (next_eq_ok.mp responded)
  | paymentDetails _ => exact paymentDetails fits (next_eq_ok.mp responded)
  | authorization _ => exact authorization fits (next_eq_ok.mp responded)
  | chargeParameterDiscovery _ =>
      exact chargeParameterDiscovery starts fits (next_eq_ok.mp responded)
  | powerDelivery _ => exact powerDelivery fits (next_eq_ok.mp responded)
  | chargingStatus _ => exact chargingStatus fits (next_eq_ok.mp responded)
  | currentDemand _ => exact currentDemand fits (next_eq_ok.mp responded)
  | meteringReceipt _ => exact meteringReceipt fits (next_eq_ok.mp responded)
  | sessionStop _ =>
      obtain ⟨_, -, ⟨⟩⟩ := map_eq_ok.mp responded

end Context.Fits
end PlugAndCharge
