import PlugAndCharge.Proofs.Parameters
import PlugAndCharge.Proofs.Succession

/-!
# The end of a run

A run that comes to its planned end switches the power off and then ends the session, in the way
that was settled by the response before these two requests.  Any other run fails: with its last
request, or because the next one, which may be the first, cannot be sent.  Either way the context
holds the reason that the run reports.
-/

namespace PlugAndCharge

/-! ## What brings the power off -/

/-- What a station notifies with a response, if that has room for it. -/
def Response.notification? : Response → Option EvseNotification
  | .chargingStatus content => some content.report.notification
  | .currentDemand content => some content.report.notification
  | .meteringReceipt content => some content.notification
  | _ => none

namespace Turn

variable {ω : Type} {equipment : Equipment ω} {session after : Session ω} {next : Step}
  {now : Milliseconds}

/-- The first end that is asked for is the one that a session is to come to. -/
private theorem stop_of_stopCharging {stop : SessionEnd} (notStopping : session.context.stop = none)
    (responded : stopCharging stop session = .ok next after) : after.context.stop = some stop := by
  obtain ⟨schedule, -, rfl, -⟩ := changePower_eq_ok.mp (stopCharging_eq_ok.mp responded)
  simp only [Context.requestStop, notStopping, Option.none_or]

/-- Where the power is switched off, the station has asked for that, or for nothing. -/
private theorem stop_of_heed {notification : EvseNotification} {otherwise : Turn ω Step}
    (notStopping : session.context.stop = none) (switchesOff : next.request.move = .power .stop)
    (responded : heed notification otherwise session = .ok next after) :
    (notification = .stopCharging ∧ after.context.stop = some .terminate) ∨
      (notification = .none ∧ otherwise session = .ok next after) := by
  cases notification with
  | none => exact .inr ⟨rfl, responded⟩
  | stopCharging => exact .inl ⟨rfl, stop_of_stopCharging notStopping responded⟩
  | renegotiation =>
      obtain ⟨schedule, -, -, rfl⟩ := changePower_eq_ok.mp (renegotiate_eq_ok.mp responded)
      cases switchesOff

/-- Where the power is switched off after the report of a round, the session is to end for good if
the station has asked for that.  If the station has asked for nothing, the vehicle has not gone on,
and the session is to end as the vehicle is set. -/
private theorem stop_of_afterRound {report : RoundReport} {another : Turn ω Step}
    (notStopping : session.context.stop = none) (switchesOff : next.request.move = .power .stop)
    (goesOn : ∀ onboard, another { session with onboard } = .ok next after →
      next.request.move ≠ .power .stop)
    (responded : afterRound equipment report another session = .ok next after) :
    (report.notification = .stopCharging ∧ after.context.stop = some .terminate) ∨
      (report.notification = .none ∧ after.context.stop =
        some (if equipment.vehicle.wantsPause
            (equipment.vehicle.continueCharging session.onboard).2 then .pause
          else .terminate)) := by
  obtain ⟨-, -, meterInfo, -, responded⟩ | ⟨-, responded⟩ := afterRound_eq_ok.mp responded
  · obtain ⟨signature, -, -, rfl⟩ := sendReceipt_eq_ok.mp responded
    cases switchesOff
  · obtain ordered | ⟨quiet, responded⟩ := stop_of_heed notStopping switchesOff responded
    · exact .inl ordered
    · obtain ⟨-, responded⟩ | ⟨-, responded⟩ := continueOrStop_eq_ok.mp responded
      · exact absurd switchesOff (goesOn _ responded)
      · refine .inr ⟨quiet, stop_of_stopCharging ?_ responded⟩
        exact notStopping

private theorem not_switchesOff_of_demandCurrent
    (responded : demandCurrent equipment session = .ok next after) :
    next.request.move ≠ .power .stop := by
  obtain ⟨demand, -, -, rfl⟩ := demandCurrent_eq_ok.mp responded
  exact nofun

/-- Where the power is switched off in the course of charging, the session is to end for good if the
station has asked for that.  Else the vehicle has ended the charging, and the session is to end as
the vehicle is set. -/
theorem stop_of_switchesOff {header : Header} {response : Response}
    (isRound : response.exchange.isRound = true) (notStopping : session.context.stop = none)
    (switchesOff : next.request.move = .power .stop)
    (responded : respond equipment now header response session = .ok (.next next) after) :
    (response.notification? = some .stopCharging ∧ after.context.stop = some .terminate) ∨
      (response.notification? = some .none ∧ after.context.stop =
        some (if equipment.vehicle.wantsPause
            (equipment.vehicle.continueCharging session.onboard).2 then .pause
          else .terminate)) := by
  cases response with
  | chargingStatus content =>
      have goesOn (onboard : ω)
          (another : send .chargingStatus (.chargingStatus {}) { session with onboard } =
            .ok next after) :
          next.request.move ≠ .power .stop := by
        obtain ⟨-, rfl⟩ := send_eq_ok.mp another
        exact nofun
      simpa [Response.notification?] using
        stop_of_afterRound notStopping switchesOff goesOn (next_eq_ok.mp responded)
  | currentDemand content =>
      simpa [Response.notification?] using
        stop_of_afterRound notStopping switchesOff
          (fun _ => not_switchesOff_of_demandCurrent) (next_eq_ok.mp responded)
  | meteringReceipt content =>
      obtain ⟨ordered, stop⟩ | ⟨-, responded⟩ :=
        stop_of_heed notStopping switchesOff (next_eq_ok.mp responded)
      · exact .inl ⟨congrArg some ordered, stop⟩
      · obtain ⟨-, -, rfl⟩ | ⟨-, responded⟩ := nextRound_eq_ok.mp responded
        · cases switchesOff
        · exact absurd switchesOff (not_switchesOff_of_demandCurrent responded)
  | _ => cases isRound

end Turn

/-! ## The last passages -/

namespace Exchange

/-- Whether an exchange comes after the selection of a way to pay. -/
def followsSelection : Exchange → Bool
  | .sessionSetup | .serviceDiscovery | .serviceDetail | .paymentServiceSelection => false
  | _ => true

/-- Whether an exchange comes after the vehicle has stated what it can take. -/
def followsStatement : Exchange → Bool
  | .powerDelivery | .chargingStatus | .currentDemand | .meteringReceipt | .sessionStop => true
  | _ => false

variable {exchange next : Exchange}

theorem followsSelection_of_follows (follows : next ∈ exchange.followers)
    (isAfter : next.followsSelection = true) :
    exchange.followsSelection = true ∨ exchange = .paymentServiceSelection := by
  cases exchange <;> grind [followers, followsSelection]

theorem followsStatement_of_follows (follows : next ∈ exchange.followers)
    (isAfter : next.followsStatement = true) :
    exchange.followsStatement = true ∨ exchange = .chargeParameterDiscovery := by
  cases exchange <;> grind [followers, followsStatement]

end Exchange

theorem Move.isRound_exchange_of_switchesOff {move : Move}
    (precedes : move ∈ Move.predecessors (.power .stop)) :
    move.exchange.isRound = true ∧ move.isEnding = false := by
  obtain rfl | rfl | rfl : move = .round true ∨ move = .round false ∨ move = .giveReceipt := by
    simpa [predecessors] using precedes
  all_goals exact ⟨rfl, rfl⟩

namespace Request

variable {request : Request}

theorem exists_powerDelivery_of_move (switchesOff : request.move = .power .stop) :
    ∃ content, request = .powerDelivery content ∧ content.chargeProgress = .stop := by
  cases request with
  | powerDelivery content => exact ⟨content, rfl, Move.power.inj switchesOff⟩
  | _ => cases switchesOff

end Request

namespace Passage

variable {ω : Type} {equipment : Equipment ω} {first second passage : Passage ω}

/-- A passage fails, or the request that follows from it cannot be sent. -/
def FailsWith (equipment : Equipment ω) (passage : Passage ω) (error : SessionError) : Prop :=
  (∃ after, passage.result equipment = .error error after) ∨
    ∃ fault next after, error = .transport fault ∧ passage.nextFault? = some fault ∧
      passage.result equipment = .ok (.next next) after

theorem stopReason_conclusion_of_error {error : SessionError}
    (failed : (passage.conclusion equipment).result = .error error) :
    (passage.conclusion equipment).session.context.stopReason =
      some (StopReason.failure error passage.session.context.peer) := by
  have peer_eq := congrArg Context.Terms.peer (terms_result equipment passage)
  obtain ⟨after, failed⟩ | ⟨rfl, next, after, led⟩ := result_conclusion_eq_error.mp failed
  · rw [failed] at peer_eq
    rw [conclusion, failed]
    exact congrArg (fun peer => some (StopReason.failure error peer)) peer_eq
  · rw [led] at peer_eq
    rw [conclusion_of_next led]
    exact congrArg (fun peer => some (StopReason.failure (.transport _) peer)) peer_eq

end Passage

namespace Run

open Passage

variable {ω : Type} (equipment : Equipment ω) (cancelAt : Option Milliseconds)

/-- If more is to be sent after the last passage of a run, it cannot be sent. -/
theorem exists_nextFault?_eq {replies : List Reply} {now : Milliseconds} {step : Step}
    {session : Session ω} {last : Passage ω} {next : Step} {after : Session ω}
    (isLast : last ∈ (passages equipment cancelAt replies now step session).getLast?)
    (led : last.result equipment = .ok (.next next) after) :
    ∃ fault, last.nextFault? = some fault := by
  obtain ⟨front, shape⟩ := List.getLast?_eq_some_iff.mp isLast
  have noneLeft := eq_passages_of_result equipment cancelAt shape led
  obtain ⟨fault, unsent⟩ := (passages_eq_nil_iff equipment cancelAt).mp noneLeft.symm
  exact ⟨fault, nextFault?_of_head? unsent⟩

end Run

/-! ## Scenarios -/

/-- The reason for an end of a session as planned, with the choices that it hands on if it is
paused. -/
def StopReason.planned (peer : Option String) (option : PaymentOption)
    (mode : EnergyTransferMode) : SessionEnd → StopReason
  | .pause =>
    { successful := true, reason := "paused", failureClass := none, peer
      resume := some { paymentOption := some option, energyMode := some mode } }
  | .terminate =>
    { successful := true, reason := "terminated", failureClass := none, peer, resume := none }

namespace Scenario

/-- The session is to end in a way after the response of a passage: for good if the station asks for
that, and as the vehicle is set if the station asks for nothing. -/
def Ends (scenario : Scenario) (passage : Passage Onboard) (stop : SessionEnd) : Prop :=
  ∃ response, passage.accepted? = some response ∧
    ((response.notification? = some .stopCharging ∧ stop = .terminate) ∨
      (response.notification? = some .none ∧
        stop =
          if scenario.onboard.simulator.settings.pauseWhenDone then .pause else .terminate))

/-- A scenario settles on a way to pay and a mode: it has them in the end, and has asked for them. -/
structure SettlesOn (scenario : Scenario) (option : PaymentOption) (mode : EnergyTransferMode) :
    Prop where
  paymentOption : scenario.run.session.context.paymentOption = some option
  energyMode : scenario.run.session.context.energyMode = some mode
  selects : ∃ passage ∈ scenario.passages, ∃ content,
    passage.step.request = .paymentServiceSelection content ∧
      content.selectedPaymentOption = option
  states : ∃ passage ∈ scenario.passages, ∃ content,
    passage.step.request = .chargeParameterDiscovery content ∧ content.requestedMode = mode

variable {scenario : Scenario} {front back : List (Passage Onboard)} {passage : Passage Onboard}

/-- Whoever needs something that comes with an exchange only, and not in the beginning, is sent
after a request of that exchange. -/
theorem exists_request_before {exchange : Exchange} (isAfter : Exchange → Bool)
    (notFirst : isAfter .sessionSetup = false)
    (passesOn : ∀ first next, next ∈ first.followers → isAfter next = true →
      isAfter first = true ∨ first = exchange)
    (shape : scenario.passages = front ++ passage :: back)
    (after : isAfter passage.step.exchange = true) :
    ∃ earlier ∈ front, earlier.step.exchange = exchange := by
  refine Run.exists_earlier scenario.equipment scenario.cancelAt scenario.replies scenario.session
    (fun passage => isAfter passage.step.exchange = true) shape ?_ ?_ after
  · exact Bool.eq_false_iff.mp notFirst
  · exact fun first second leads => passesOn _ _ leads.follows.exchange_mem

/-- A session that is about to end has selected the way to pay, and stated the mode, that it has
then. -/
theorem exists_settlesOn (shape : scenario.passages = front ++ passage :: back)
    (stops : passage.step.exchange = .sessionStop) :
    ∃ option mode, scenario.SettlesOn option mode := by
  have isPassage : passage ∈ scenario.passages := by simp [shape]
  have isEarlier (earlier : Passage Onboard) (inFront : earlier ∈ front) :
      earlier ∈ scenario.passages := by simp [shape, inFront]
  obtain ⟨option_eq, mode_eq⟩ := settled_eq isPassage (by simp [stops]) (by simp [stops])
  have settled : passage.move.isSettled = true :=
    Move.isSettled_of_exchange_ne (by simp [Passage.exchange_move, stops])
      (by simp [Passage.exchange_move, stops])
  have fits := scenario.fits passage isPassage
  obtain ⟨option, isOption⟩ := Option.isSome_iff_exists.mp (fits.paymentSettled.trans settled)
  obtain ⟨mode, isMode⟩ := Option.isSome_iff_exists.mp (fits.modeSettled.trans settled)
  obtain ⟨selecting, inFront, selects⟩ := exists_request_before Exchange.followsSelection rfl
    (fun _ _ => Exchange.followsSelection_of_follows) shape (by rw [stops]; rfl)
  obtain ⟨stating, inFront', states⟩ := exists_request_before Exchange.followsStatement rfl
    (fun _ _ => Exchange.followsStatement_of_follows) shape (by rw [stops]; rfl)
  refine ⟨option, mode, option_eq.symm.trans isOption, mode_eq.symm.trans isMode, ?_, ?_⟩
  · have isSelecting := isEarlier selecting inFront
    obtain ⟨content, request_eq⟩ := Request.exists_paymentServiceSelection selects
    have held := ((scenario.fits selecting isSelecting).repeats
      (scenario.sends_passages selecting isSelecting)).1 content request_eq
    have same := (settled_eq isSelecting (by simp [selects]) (by simp [selects])).1
    rw [held, ← option_eq, isOption] at same
    exact ⟨selecting, isSelecting, content, request_eq, Option.some.inj same⟩
  · have isStating := isEarlier stating inFront'
    obtain ⟨content, request_eq⟩ := Request.exists_chargeParameterDiscovery states
    have held := ((scenario.fits stating isStating).repeats
      (scenario.sends_passages stating isStating)).2 content request_eq
    have same := (settled_eq isStating (by simp [states]) (by simp [states])).2
    rw [held, ← mode_eq, isMode] at same
    exact ⟨stating, isStating, content, request_eq, Option.some.inj same⟩

/-! ### Planned ends -/

/-- However often it is asked, the vehicle pauses if it is set to. -/
theorem wantsPause_eq (isPassage : passage ∈ scenario.passages) :
    scenario.equipment.vehicle.wantsPause
        (scenario.equipment.vehicle.continueCharging passage.session.onboard).2 =
      scenario.onboard.simulator.settings.pauseWhenDone := by
  obtain ⟨loopsDone, asked_eq⟩ := passage.session.onboard.simulator.exists_continueCharging_eq
  have settings_eq := scenario.settings_eq passage isPassage
  calc
    scenario.equipment.vehicle.wantsPause
          (scenario.equipment.vehicle.continueCharging passage.session.onboard).2 =
        passage.session.onboard.simulator.continueCharging.2.settings.pauseWhenDone := rfl
    _ = scenario.onboard.simulator.settings.pauseWhenDone := by rw [asked_eq, ← settings_eq]

/-- Where the power is switched off, the response before it has settled how the session ends. -/
theorem exists_ends {next : Passage Onboard}
    (leads : passage.Leads scenario.equipment next)
    (isPassage : passage ∈ scenario.passages) (switchesOff : next.move = .power .stop) :
    ∃ stop, scenario.Ends passage stop ∧ next.session.context.stop = some stop := by
  have fits := scenario.fits passage isPassage
  obtain ⟨isRound, notEnding⟩ := Move.isRound_exchange_of_switchesOff
    (switchesOff ▸ leads.mem_predecessors scenario.onlyStarts fits)
  have notStopping : passage.session.context.stop = none := by
    simpa [notEnding] using fits.stopping
  obtain ⟨header, response, after, accepted, awaited, responded, next_eq⟩ := leads.exists_response
  have kept : ∀ stop ∈ after.context.stop, next.session.context.stop = some stop := by
    rw [next_eq]
    exact (Context.Lasts.requestSent after.context _ _).stop
  obtain ⟨ordered, stop⟩ | ⟨quiet, stop⟩ :=
    Turn.stop_of_switchesOff (awaited ▸ isRound) notStopping switchesOff responded
  · exact ⟨_, ⟨response, accepted, .inl ⟨ordered, rfl⟩⟩, kept _ stop⟩
  · rw [wantsPause_eq isPassage] at stop
    exact ⟨_, ⟨response, accepted, .inr ⟨quiet, rfl⟩⟩, kept _ stop⟩

/-- A scenario that ends as planned does so with these three requests: the one whose response settles
how the session ends, the one that switches the power off, and the one that ends the session. -/
structure EndsPlanned (scenario : Scenario) (reason : StopReason)
    (before : List (Passage Onboard)) (decisive power last : Passage Onboard) (stop : SessionEnd) :
    Prop where
  passages_eq : scenario.passages = before ++ [decisive, power, last]
  ends : scenario.Ends decisive stop
  switchesOff : ∃ content, power.step.request = .powerDelivery content ∧
    content.chargeProgress = .stop
  request_eq : last.step.request = .sessionStop { chargingSession := stop }
  reason_eq : ∃ option mode, scenario.SettlesOn option mode ∧
    reason = StopReason.planned scenario.peer option mode stop

/-- With its last response a session that ends as planned notes the reason and nothing else. -/
theorem exists_terminated {reason : StopReason} (succeeded : scenario.run.result = .ok reason) :
    ∃ before last, scenario.passages = before ++ [last] ∧
      last.result scenario.equipment = .ok (.terminated reason) scenario.run.session := by
  obtain ⟨last, isLast, ended⟩ := exists_last_of_result succeeded
  obtain ⟨before, passages_eq⟩ := List.getLast?_eq_some_iff.mp isLast
  exact ⟨before, last, passages_eq, ended⟩

theorem exists_endsPlanned {reason : StopReason} (succeeded : scenario.run.result = .ok reason) :
    ∃ before decisive power last stop,
      scenario.EndsPlanned reason before decisive power last stop := by
  obtain ⟨front, last, shape, ended⟩ := exists_terminated succeeded
  have isLast : last ∈ scenario.passages := by simp [shape]
  obtain ⟨stops, -⟩ := Passage.sessionStop_of_terminated ended
  obtain ⟨content, request_eq⟩ := Request.exists_sessionStop stops
  obtain ⟨option, mode, settles⟩ := exists_settlesOn shape stops
  obtain ⟨front, power, rfl, shape, leads, precedes⟩ := exists_previous shape (by simp [stops])
  have power_move : power.move = .power .stop := by
    rw [show last.move = .stop from congrArg Request.move request_eq] at precedes
    exact List.mem_singleton.mp precedes
  obtain ⟨delivery, delivery_eq, isStop⟩ := Request.exists_powerDelivery_of_move power_move
  obtain ⟨before, decisive, rfl, shape, decides, -⟩ := exists_previous shape
    (by rw [Step.exchange, delivery_eq]; exact nofun)
  obtain ⟨stop, ends, power_stop⟩ := exists_ends decides (by simp [shape]) power_move
  have last_stop := leads.lasts.stop stop power_stop
  refine ⟨before, decisive, power, last, stop, ?_, ends, ⟨delivery, delivery_eq, isStop⟩, ?_,
    option, mode, settles, ?_⟩
  · exact shape
  · have sends := (scenario.sends_passages last isLast).repeats
    rw [request_eq] at sends ⊢
    rw [Option.some.inj (last_stop.symm.trans sends)]
  · have lasts := last.lasts_result scenario.equipment
    have terms := Passage.terms_result scenario.equipment last
    rw [ended] at lasts terms
    have peer : scenario.run.session.context.peer = scenario.peer :=
      (congrArg Context.Terms.peer terms).trans (peer_eq isLast)
    obtain ⟨asked, final_stop, reason_eq⟩ := (scenario.fits last isLast).plannedReason ended
    obtain rfl : stop = asked := Option.some.inj ((lasts.stop stop last_stop).symm.trans final_stop)
    rw [reason_eq]
    cases stop with
    | pause =>
        rw [Context.plannedReason, Context.choices, peer, settles.paymentOption,
          settles.energyMode]
        rfl
    | terminate =>
        rw [Context.plannedReason, peer]
        rfl

/-! ### Failures -/

/-- A scenario fails with its last request, or because the one after that, which may be the first,
cannot be sent.  Nothing is sent after that. -/
def FailsWith (scenario : Scenario) (error : SessionError) : Prop :=
  (∃ fault, error = .transport fault ∧ scenario.replies.head? = some (.unsent fault) ∧
    scenario.passages = [] ∧ scenario.run.finish = 0) ∨
  ∃ before last, scenario.passages = before ++ [last] ∧
    last.FailsWith scenario.equipment error ∧ scenario.run.finish = last.endedAt

theorem failsWith_of_result {error : SessionError}
    (failed : scenario.run.result = .error error) : scenario.FailsWith error := by
  obtain ⟨fault, unsent, isNil, run_eq⟩ | ⟨last, isLast, run_eq⟩ := scenario.run_cases
  · rw [run_eq] at failed
    cases failed
    exact .inl ⟨fault, rfl, unsent, isNil, by rw [run_eq]; rfl⟩
  · obtain ⟨before, passages_eq⟩ := List.getLast?_eq_some_iff.mp isLast
    refine .inr ⟨before, last, passages_eq, ?_, ?_⟩
    · rw [run_eq] at failed
      obtain byItself | ⟨error_eq, next, after, led⟩ :=
        Passage.result_conclusion_eq_error.mp failed
      · exact .inl byItself
      · obtain ⟨fault, unsent⟩ := Run.exists_nextFault?_eq _ _ isLast led
        rw [unsent, Option.getD_some] at error_eq
        exact .inr ⟨fault, next, after, error_eq, unsent, led⟩
    · rw [run_eq]
      exact Passage.finish_conclusion scenario.equipment last

/-- The context holds the class of the failure and its words, and nothing to resume. -/
theorem stopReason_of_result {error : SessionError} (failed : scenario.run.result = .error error) :
    scenario.run.session.context.stopReason = some
      { successful := false
        reason := error.message
        failureClass := some error.failureClass
        peer := scenario.peer
        resume := none } := by
  obtain ⟨fault, -, -, run_eq⟩ | ⟨last, isLast, run_eq⟩ := scenario.run_cases
  · rw [run_eq] at failed ⊢
    cases failed
    rfl
  · rw [run_eq] at failed ⊢
    rw [← peer_eq (List.mem_of_getLast? isLast)]
    exact Passage.stopReason_conclusion_of_error failed

/-- A run tells how it ended, and so does its context.  A run that ends as planned has switched the
power off and ended the session, for good if the station asked for that, else as the vehicle is set;
the choices are handed on if the session is paused.  A run that fails notes that it did, with the
class of the failure and its words, and hands nothing on; after what it fails for nothing is sent. -/
theorem run_reports_end (scenario : Scenario) :
    scenario.run.sent = scenario.passages.map Passage.sending ∧
      (∀ reason, scenario.run.result = .ok reason →
        scenario.run.session.context.stopReason = some reason ∧
          ∃ before decisive power last stop,
            scenario.EndsPlanned reason before decisive power last stop) ∧
      ∀ error, scenario.run.result = .error error →
        scenario.run.session.context.stopReason = some
          { successful := false
            reason := error.message
            failureClass := some error.failureClass
            peer := scenario.peer
            resume := none } ∧
          scenario.FailsWith error := by
  refine ⟨scenario.sent_run, fun reason succeeded => ⟨?_, exists_endsPlanned succeeded⟩,
    fun error failed => ⟨stopReason_of_result failed, failsWith_of_result failed⟩⟩
  obtain ⟨before, last, -, ended⟩ := exists_terminated succeeded
  obtain ⟨-, stopped⟩ := Passage.sessionStop_of_terminated ended
  obtain ⟨after_eq, -⟩ := Turn.sessionStop_eq_ok.mp stopped
  rw [after_eq]

end Scenario
end PlugAndCharge
