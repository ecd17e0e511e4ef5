import PlugAndCharge.Proofs.Budget
import PlugAndCharge.Proofs.Sending

/-!
# What the context holds while a response is awaited

Wherever the vehicle waits for a response, the outstanding request tells what the context holds:
which identifiers, choices and flags are set, and when the request was sent first.  What is set once
stays as it is to the end.  So the vehicle never finds its own record incomplete or already filled
in, and never has to fall back on a value that nobody has chosen.
-/

namespace PlugAndCharge

/-! ## What stays set -/

/-- What is set in a context is set alike in a later one; only a schedule may be replaced. -/
structure Context.StaysSet (before after : Context) : Prop extends Lasts before after where
  paymentOption : ∀ option ∈ before.paymentOption, after.paymentOption = some option
  energyMode : ∀ mode ∈ before.energyMode, after.energyMode = some mode

theorem Context.StaysSet.trans {first second third : Context} (earlier : first.StaysSet second)
    (later : second.StaysSet third) : first.StaysSet third where
  toLasts := earlier.toLasts.trans later.toLasts
  paymentOption _ isSome := later.paymentOption _ (earlier.paymentOption _ isSome)
  energyMode _ isSome := later.energyMode _ (earlier.energyMode _ isSome)

instance : Trans Context.StaysSet Context.StaysSet Context.StaysSet := ⟨Context.StaysSet.trans⟩

namespace Move

theorem isNamed_eq_false_iff {move : Move} :
    move.isNamed = false ↔ move.exchange = .sessionSetup := by
  cases move with
  | round isAc => cases isAc <;> simp [isNamed, exchange]
  | _ => simp [isNamed, exchange]

theorem isSettled_of_exchange_ne {move : Move} (notSetup : move.exchange ≠ .sessionSetup)
    (notOffer : move.exchange ≠ .serviceDiscovery) : move.isSettled = true := by
  cases move with
  | setUp => exact absurd rfl notSetup
  | discover => exact absurd rfl notOffer
  | _ => rfl

/-- The exchanges that take a session in which a schedule has been chosen. -/
theorem isScheduled_iff {move : Move} :
    move.isScheduled = true ↔
      move.exchange = .powerDelivery ∨ move.exchange.isRound = true ∨
        move.exchange = .sessionStop := by
  cases move with
  | round isAc => cases isAc <;> simp [isScheduled, exchange, Exchange.isRound]
  | _ => simp [isScheduled, exchange, Exchange.isRound]

end Move

/-- A session without identifiers takes those that it is given. -/
theorem Turn.exists_sessionSetup_eq_ok {ω : Type} {session : Session ω}
    (unnamed : session.context.sessionId = none) (unplaced : session.context.evseId = none)
    (sessionId : SessionId) (content : SessionSetupRes) :
    ∃ next after, sessionSetup sessionId content session = .ok next after :=
  ⟨_, _, sessionSetup_eq_ok.mpr ⟨unnamed, unplaced, rfl, rfl⟩⟩

namespace Passage

variable {ω : Type} {equipment : Equipment ω} {first second passage : Passage ω}

theorem exchange_move (passage : Passage ω) : passage.move.exchange = passage.step.exchange :=
  Request.exchange_move _

/-- What is noted stays noted through a passage, even if that fails. -/
theorem lasts_result (equipment : Equipment ω) (passage : Passage ω) :
    passage.session.context.Lasts
      (Turn.sessionOf (passage.result equipment)).context := by
  unfold result
  cases passage.received with
  | error error => exact Context.Lasts.refl _
  | ok message => exact (Turn.Evolves.process passage.step.exchange message).lasts passage.session

theorem lasts_conclusion (equipment : Equipment ω) (passage : Passage ω) :
    (Turn.sessionOf (passage.result equipment)).context.Lasts
      (passage.conclusion equipment).session.context := by
  unfold conclusion
  rcases passage.result equipment with ⟨next | reason, after⟩ | ⟨error, after⟩
  · exact { Context.Lasts.refl after.context with }
  · exact Context.Lasts.refl after.context
  · exact { Context.Lasts.refl after.context with }

theorem Leads.lasts (leads : first.Leads equipment second) :
    first.session.context.Lasts second.session.context := by
  have lasted := lasts_result equipment first
  obtain ⟨after, led, second_eq⟩ := leads
  rw [led] at lasted
  rw [second_eq]
  exact lasted.trans (Context.Lasts.requestSent after.context _ _)

/-- What is set while a response is awaited stays set, if the record lasts and the session stays
settled once it is. -/
theorem Fits.staysSet {after : Context} (fits : passage.Fits)
    (lasts : passage.session.context.Lasts after)
    (staysSettled : passage.move.isSettled = true →
      after.settlement = passage.session.context.settlement) :
    passage.session.context.StaysSet after := by
  refine ⟨lasts, fun option isOption => ?_, fun mode isMode => ?_⟩
  · have settled : passage.move.isSettled = true := by
      rw [← fits.paymentSettled, isOption, Option.isSome_some]
    have same := congrArg (fun settlement => settlement.2.1) (staysSettled settled)
    exact same.trans isOption
  · have settled : passage.move.isSettled = true := by
      rw [← fits.modeSettled, isMode, Option.isSome_some]
    have same := congrArg (fun settlement => settlement.2.2) (staysSettled settled)
    exact same.trans isMode

/-! ## No lapse -/

/-- While the setup is awaited, there is no identifier that could already have been given. -/
theorem Fits.unset (fits : passage.Fits) (isSetup : passage.step.exchange = .sessionSetup) :
    passage.session.context.sessionId = none ∧ passage.session.context.evseId = none := by
  have unnamed := Move.isNamed_eq_false_iff.mpr (passage.exchange_move.trans isSetup)
  have named := fits.named
  have placed := fits.placed
  rw [unnamed] at named placed
  exact ⟨Option.isSome_eq_false_iff.mp named |> Option.isNone_iff_eq_none.mp,
    Option.isSome_eq_false_iff.mp placed |> Option.isNone_iff_eq_none.mp⟩

/-- A fitting session takes the identifiers that the setup gives. -/
theorem Fits.respond_setup_ne_error {now : Milliseconds} {header : Header} {response : Response}
    {error : SessionError} {after : Session ω} (fits : passage.Fits)
    (isSetup : response.exchange = .sessionSetup)
    (awaited : response.exchange = passage.step.exchange) :
    Turn.respond equipment now header response passage.session ≠ .error error after := by
  intro failed
  obtain ⟨unnamed, unplaced⟩ := fits.unset (awaited.symm.trans isSetup)
  cases response with
  | sessionSetup content =>
      obtain ⟨next, named, came⟩ :=
        Turn.exists_sessionSetup_eq_ok unnamed unplaced header.sessionId content
      rw [Turn.respond, Turn.next_eq_ok.mpr came] at failed
      cases failed
  | _ => cases isSetup

/-- In a round of charging, a fitting session has a schedule. -/
theorem Fits.isSome_schedule (fits : passage.Fits)
    (isRound : passage.step.exchange.isRound = true) :
    passage.session.context.schedule.isSome = true := by
  rw [← exchange_move] at isRound
  exact fits.scheduled (Move.isScheduled_iff.mpr (.inr (.inl isRound)))

/-- A passage whose context fits its request does not fail for a lapse of the vehicle. -/
theorem Fits.isLapse_eq_false (fits : passage.Fits) {error : SessionError} {after : Session ω}
    (failed : passage.result equipment = .error error after) : error.isLapse = false := by
  obtain precedes | ⟨message, response, validated, responded⟩ := result_eq_error_cases failed
  · exact SessionError.isLapse_of_precedesResponse precedes
  obtain ⟨-, awaited, -⟩ := Context.validate_eq_ok.mp validated
  have evolves : Turn.Evolves response.exchange
      (Turn.respond equipment passage.endedAt message.header response) :=
    Turn.Evolves.respond response
  have evolved := evolves passage.session
  have lasted := evolves.lasts passage.session
  rw [responded] at evolved lasted
  by_contra isLapse
  rw [Bool.not_eq_false] at isLapse
  obtain isSetup | ⟨isRound, unset⟩ := evolved.2 isLapse
  · exact fits.respond_setup_ne_error isSetup awaited responded
  · have stillScheduled := lasted.schedule (fits.isSome_schedule (awaited ▸ isRound))
    rw [Turn.sessionOf_error, unset] at stillScheduled
    cases stillScheduled

/-! ## What the request tells -/

/-- What the context holds while the response to a request is awaited. -/
structure Consistent (passage : Passage ω) : Prop where
  unnamed : passage.session.context.sessionId = none ↔ passage.step.exchange = .sessionSetup
  unplaced : passage.session.context.evseId = none ↔ passage.step.exchange = .sessionSetup
  settled : passage.step.exchange ≠ .sessionSetup → passage.step.exchange ≠ .serviceDiscovery →
    passage.session.context.paymentOption.isSome = true ∧
      passage.session.context.energyMode.isSome = true ∧
      passage.session.context.resume = none
  scheduled : passage.step.exchange ∈
      [.powerDelivery, .chargingStatus, .currentDemand, .meteringReceipt, .sessionStop] →
    passage.session.context.schedule.isSome = true
  renegotiating : passage.session.context.isRenegotiating = true ↔
    ∃ content, passage.step.request = .powerDelivery content ∧
      content.chargeProgress = .renegotiate
  stopping : passage.session.context.stop.isSome = true ↔
    (∃ content, passage.step.request = .powerDelivery content ∧
      content.chargeProgress = .stop) ∨
    ∃ content, passage.step.request = .sessionStop content
  timed : ∃ issued, passage.session.context.issuedAt = some issued ∧
    passage.session.context.ongoingSince = if passage.step.repeated then some issued else none
  selects : ∀ content, passage.step.request = .paymentServiceSelection content →
    passage.session.context.paymentOption = some content.selectedPaymentOption
  states : ∀ content, passage.step.request = .chargeParameterDiscovery content →
    passage.session.context.energyMode = some content.requestedMode
  changesPower : ∀ content, passage.step.request = .powerDelivery content →
    passage.session.context.schedule = some content.scheduleTupleId
  stops : ∀ content, passage.step.request = .sessionStop content →
    passage.session.context.stop = some content.chargingSession

/-- Nothing that a fitting context is asked for is missing, so nothing else takes its place. -/
theorem Fits.repeats (fits : passage.Fits)
    (sends : passage.session.Sends equipment passage.step) :
    (∀ content, passage.step.request = .paymentServiceSelection content →
      passage.session.context.paymentOption = some content.selectedPaymentOption) ∧
    ∀ content, passage.step.request = .chargeParameterDiscovery content →
      passage.session.context.energyMode = some content.requestedMode := by
  have repeats := sends.repeats
  constructor
  · intro content request_eq
    rw [request_eq] at repeats
    have settled := fits.paymentSettled
    rw [move, request_eq] at settled
    obtain ⟨option, isOption⟩ := Option.isSome_iff_exists.mp settled
    rw [(repeats : content = _), Context.paymentSelection, isOption, Option.getD_some]
  · intro content request_eq
    rw [request_eq] at repeats
    have settled := fits.modeSettled
    rw [move, request_eq] at settled
    obtain ⟨mode, isMode⟩ := Option.isSome_iff_exists.mp settled
    rw [(repeats : content = _), Turn.chargeParametersOf, isMode, Option.getD_some]

theorem Fits.consistent {issued : Milliseconds} (fits : passage.Fits)
    (timed : passage.TimedFrom issued) (sends : passage.session.Sends equipment passage.step) :
    passage.Consistent where
  unnamed := by
    rw [← exchange_move, ← Move.isNamed_eq_false_iff, ← fits.named, Option.isSome_eq_false_iff,
      Option.isNone_iff_eq_none]
  unplaced := by
    rw [← exchange_move, ← Move.isNamed_eq_false_iff, ← fits.placed, Option.isSome_eq_false_iff,
      Option.isNone_iff_eq_none]
  settled := by
    intro notSetup notOffer
    rw [← exchange_move] at notSetup notOffer
    have settled := Move.isSettled_of_exchange_ne notSetup notOffer
    exact ⟨fits.paymentSettled.trans settled, fits.modeSettled.trans settled,
      fits.resumed settled⟩
  scheduled := by
    intro isLate
    refine fits.scheduled (Move.isScheduled_iff.mpr ?_)
    rw [exchange_move]
    revert isLate
    cases passage.step.exchange <;> simp [Exchange.isRound]
  renegotiating := by
    rw [fits.renegotiating, move]
    cases passage.step.request with
    | powerDelivery content =>
        cases progress : content.chargeProgress <;>
          simp [Request.move, progress, Move.isRenegotiation]
    | _ => simp [Request.move, Move.isRenegotiation]
  stopping := by
    rw [fits.stopping, move]
    cases passage.step.request with
    | powerDelivery content =>
        cases progress : content.chargeProgress <;> simp [Request.move, progress, Move.isEnding]
    | _ => simp [Request.move, Move.isEnding]
  timed := ⟨issued, timed.issuedAt, timed.ongoingSince⟩
  selects := (fits.repeats sends).1
  states := (fits.repeats sends).2
  changesPower := by
    intro content request_eq
    have repeats := sends.repeats
    rwa [request_eq] at repeats
  stops := by
    intro content request_eq
    have repeats := sends.repeats
    rwa [request_eq] at repeats

end Passage

/-- The reason for an end of a session as planned. -/
def Context.plannedReason (context : Context) : SessionEnd → StopReason
  | .pause => StopReason.success "paused" context.peer (some context.choices)
  | .terminate => StopReason.success "terminated" context.peer none

/-- A session that ends as planned ends in the way that was asked for. -/
theorem Passage.Fits.plannedReason {ω : Type} {equipment : Equipment ω} {passage : Passage ω}
    {reason : StopReason} {after : Session ω} (fits : passage.Fits)
    (ended : passage.result equipment = .ok (.terminated reason) after) :
    ∃ stop, after.context.stop = some stop ∧ reason = after.context.plannedReason stop := by
  obtain ⟨stops, stopped⟩ := Passage.sessionStop_of_terminated ended
  obtain ⟨rfl, reason_eq⟩ := Turn.sessionStop_eq_ok.mp stopped
  have move_eq : passage.move = .stop := by
    obtain ⟨progress, move_eq⟩ := passage.move.exists_eq_ofExchange
    rw [move_eq, Passage.exchange_move, stops]
    rfl
  have stopping := fits.stopping
  rw [move_eq] at stopping
  obtain ⟨stop, isEnd⟩ := Option.isSome_iff_exists.mp stopping
  refine ⟨stop, isEnd, ?_⟩
  rw [reason_eq, isEnd]
  cases stop <;> rfl

/-! ## Scenarios -/

namespace Scenario

/-- The contexts in which the vehicle waits, and the one in the end. -/
def contexts (scenario : Scenario) : List Context :=
  scenario.passages.map (fun passage => passage.session.context) ++
    [scenario.run.session.context]

theorem staysSet_contexts (scenario : Scenario) :
    scenario.contexts.Pairwise Context.StaysSet := by
  refine List.isChain_iff_pairwise.mp (List.isChain_append.mpr ⟨?_, List.isChain_singleton _, ?_⟩)
  · rw [List.isChain_map]
    refine scenario.isChain.imp_of_mem_imp fun first second isFirst _ leads => ?_
    exact (scenario.fits first isFirst).staysSet leads.lasts leads.settlement_eq
  · intro context isContext final isFinal
    obtain rfl : scenario.run.session.context = final := Option.some.inj isFinal
    rw [List.getLast?_map] at isContext
    obtain ⟨fault, -, isNil, -⟩ | ⟨last, isLast, run_eq⟩ := scenario.run_cases
    · rw [isNil] at isContext
      cases isContext
    obtain rfl : last.session.context = context := by
      rw [isLast] at isContext
      exact Option.some.inj isContext
    have fits := scenario.fits last (List.mem_of_getLast? isLast)
    rw [run_eq]
    refine fits.staysSet ?_ fun settled => ?_
    · exact (last.lasts_result scenario.equipment).trans
        (last.lasts_conclusion scenario.equipment)
    · exact (last.settlement_conclusion).trans (Passage.settlement_result settled)

/-- Wherever the vehicle waits in a scenario, its context is consistent with the request, and what
is set stays as it is to the end.  So no run fails for a lapse of the vehicle, and one that ends as
planned ends in the way that was asked for. -/
theorem awaiting_consistent (scenario : Scenario) :
    scenario.run.sent = scenario.passages.map Passage.sending ∧
      (∀ passage ∈ scenario.passages, passage.Consistent) ∧
      scenario.contexts.Pairwise Context.StaysSet ∧
      (∀ identifier, scenario.run.result ≠ .error (.alreadyAssigned identifier)) ∧
      scenario.run.result ≠ .error (.incompatible .noScheduleSelected) ∧
      ∀ reason, scenario.run.result = .ok reason →
        ∃ stop, scenario.run.session.context.stop = some stop ∧
          reason = scenario.run.session.context.plannedReason stop := by
  have noLapse (error : SessionError) (failed : scenario.run.result = .error error) :
      error.isLapse = false := by
    obtain ⟨fault, -, -, run_eq⟩ | ⟨last, isLast, run_eq⟩ := scenario.run_cases
    · rw [run_eq] at failed
      cases failed
      rfl
    rw [run_eq] at failed
    obtain ⟨after, failed⟩ | ⟨rfl, -⟩ := Passage.result_conclusion_eq_error.mp failed
    · exact (scenario.fits last (List.mem_of_getLast? isLast)).isLapse_eq_false failed
    · rfl
  refine ⟨scenario.sent_run, fun passage isPassage => ?_, scenario.staysSet_contexts,
    fun identifier failed => ?_, fun failed => ?_, fun reason succeeded => ?_⟩
  · obtain ⟨issued, timed⟩ := Run.exists_timedFrom scenario.equipment scenario.cancelAt
      scenario.replies scenario.session passage isPassage
    exact (scenario.fits passage isPassage).consistent timed
      (Run.sends_passages scenario.equipment scenario.cancelAt scenario.replies scenario.session
        passage isPassage)
  · cases noLapse _ failed
  · cases noLapse _ failed
  · obtain ⟨last, isLast, ended⟩ := exists_last_of_result succeeded
    exact (scenario.fits last (List.mem_of_getLast? isLast)).plannedReason ended

end Scenario
end PlugAndCharge
