import PlugAndCharge.Proofs.Awaiting

/-!
# What follows a response

Each response may be followed by the requests of a few exchanges only, whatever the vehicle is like.
The request bears the identifier that the session has when it is sent, also inside of a receipt.  So
what a request needs has been given in a passage before it (`Run.exists_earlier`).
-/

namespace PlugAndCharge

variable {ω : Type}

/-- The exchanges whose requests may follow the response of an exchange. -/
def Exchange.followers : Exchange → List Exchange
  | .sessionSetup => [.serviceDiscovery]
  | .serviceDiscovery | .serviceDetail => [.serviceDetail, .paymentServiceSelection]
  | .paymentServiceSelection => [.certificateInstallation, .paymentDetails, .authorization]
  | .certificateInstallation => [.paymentDetails]
  | .paymentDetails => [.authorization]
  | .authorization => [.authorization, .chargeParameterDiscovery]
  | .chargeParameterDiscovery => [.chargeParameterDiscovery, .powerDelivery]
  | .powerDelivery => [.sessionStop, .chargeParameterDiscovery, .chargingStatus, .currentDemand]
  | .chargingStatus => [.meteringReceipt, .powerDelivery, .chargingStatus]
  | .currentDemand => [.meteringReceipt, .powerDelivery, .currentDemand]
  | .meteringReceipt => [.powerDelivery, .chargingStatus, .currentDemand]
  | .sessionStop => []

namespace Exchange

variable {first : Exchange}

theorem sessionSetup_notMem_followers (first : Exchange) : .sessionSetup ∉ first.followers := by
  cases first <;> decide

theorem eq_sessionSetup_of_follows (follows : .serviceDiscovery ∈ first.followers) :
    first = .sessionSetup := by
  revert follows
  cases first <;> decide

end Exchange

/-- A step belongs to one of the exchanges and bears the identifier of a context, and so does the
receipt that it may contain. -/
structure Step.Follows (exchanges : List Exchange) (context : Context) (step : Step) : Prop where
  exchange_mem : step.exchange ∈ exchanges
  header : step.sessionId = context.headerId
  receipt : ∀ content, step.request = .meteringReceipt content →
    content.sessionId = context.headerId

namespace Step.Follows

variable {exchanges : List Exchange} {context changed : Context} {step : Step}

theorem of_not_receipt (isMember : step.exchange ∈ exchanges)
    (header : step.sessionId = context.headerId) (notReceipt : step.exchange ≠ .meteringReceipt) :
    step.Follows exchanges context :=
  ⟨isMember, header, fun _ isReceipt => absurd (congrArg Request.exchange isReceipt) notReceipt⟩

theorem of_sessionId_eq (follows : step.Follows exchanges context)
    (same : changed.sessionId = context.sessionId) : step.Follows exchanges changed := by
  have headerId_eq : changed.headerId = context.headerId := by
    rw [Context.headerId, Context.headerId, same]
  exact ⟨follows.exchange_mem, headerId_eq ▸ follows.header, headerId_eq ▸ follows.receipt⟩

end Step.Follows

/-! ## Turns -/

namespace Turn

variable {α : Type} {equipment : Equipment ω} {now : Milliseconds} {exchanges : List Exchange}

/-- Wherever it begins, a turn that comes to a request comes to one of the exchanges, under the
identifier that the session then has. -/
def Follows (exchanges : List Exchange) (turn : Turn ω Step) : Prop :=
  ∀ session step after, turn session = .ok step after → step.Follows exchanges after.context

namespace Follows

/-! ### Parts of a turn -/

/-- The last part of a turn is the one that sends. -/
protected theorem bind {turn : Turn ω α} {next : α → Turn ω Step}
    (follows : ∀ value, Follows exchanges (next value)) : Follows exchanges (turn >>= next) := by
  intro session step after came
  obtain ⟨value, between, -, came⟩ := bind_eq_ok.mp came
  exact follows value between step after came

protected theorem ite {condition : Prop} [Decidable condition] {first second : Turn ω Step}
    (followsFirst : Follows exchanges first) (followsSecond : Follows exchanges second) :
    Follows exchanges (if condition then first else second) := by
  split
  · exact followsFirst
  · exact followsSecond

protected theorem fail (error : SessionError) : Follows exchanges (fail (ω := ω) error) := by
  intro session step after came
  cases came

protected theorem send {awaited : Exchange} {request : Request}
    (isMember : request.exchange ∈ exchanges) (notReceipt : request.exchange ≠ .meteringReceipt) :
    Follows exchanges (send (ω := ω) awaited request) := by
  intro session step after came
  obtain ⟨rfl, rfl⟩ := send_eq_ok.mp came
  exact .of_not_receipt isMember rfl notReceipt

protected theorem sendSigned [Json.Wire α] (credentials : Credentials ω) (slot : KeySlot)
    {content : α} {awaited : Exchange} {request : α → Request}
    (isMember : (request content).exchange ∈ exchanges)
    (notReceipt : (request content).exchange ≠ .meteringReceipt) :
    Follows exchanges (sendSigned credentials slot content awaited request) := by
  intro session step after came
  obtain ⟨signature, -, rfl, rfl⟩ := sendSigned_eq_ok.mp came
  exact .of_not_receipt isMember rfl notReceipt

protected theorem sendAgain {awaited : Exchange} {request : Request}
    (isMember : request.exchange ∈ exchanges) (notReceipt : request.exchange ≠ .meteringReceipt) :
    Follows exchanges (sendAgain (ω := ω) now awaited request) := by
  intro session step after came
  obtain ⟨timeout, noted, -, rfl⟩ := sendAgain_eq_ok.mp came
  obtain ⟨-, -, changed⟩ := Context.noteOngoing_eq_ok.mp noted
  refine Step.Follows.of_sessionId_eq (.of_not_receipt isMember rfl notReceipt) ?_
  rw [changed]

/-- A receipt is made out under the identifier that the session has. -/
protected theorem sendReceipt (scheduleTupleId : UInt8) (meterInfo : MeterInfo)
    (isMember : .meteringReceipt ∈ exchanges) :
    Follows exchanges (sendReceipt equipment scheduleTupleId meterInfo) := by
  intro session step after came
  obtain ⟨signature, -, rfl, rfl⟩ := sendReceipt_eq_ok.mp came
  refine ⟨isMember, rfl, fun content isReceipt => ?_⟩
  obtain rfl := Request.meteringReceipt.inj isReceipt
  rfl

/-! ### Setting up -/

protected theorem sessionSetup (sessionId : SessionId) (content : SessionSetupRes) :
    Follows [.serviceDiscovery] (sessionSetup (ω := ω) sessionId content) :=
  .bind fun _ => .bind fun _ => .send (by simp [Request.exchange]) nofun

protected theorem nextDetailsOrSelection :
    Follows [.serviceDetail, .paymentServiceSelection] (nextDetailsOrSelection (ω := ω)) := by
  refine .bind fun context => ?_
  cases context.pendingDetails with
  | nil => exact .send (by simp [Request.exchange]) nofun
  | cons serviceId rest => exact .bind fun _ => .send (by simp [Request.exchange]) nofun

protected theorem serviceDiscovery (content : ServiceDiscoveryRes) :
    Follows [.serviceDetail, .paymentServiceSelection] (serviceDiscovery equipment content) := by
  intro session step after came
  obtain ⟨chargeService, -, -, came⟩ := serviceDiscovery_eq_ok.mp came
  exact Follows.nextDetailsOrSelection _ step after came

protected theorem paymentServiceSelection :
    Follows [.certificateInstallation, .paymentDetails, .authorization]
      (paymentServiceSelection equipment) := by
  refine .bind fun context => .ite ?_ (.bind fun certInstallNeeded => .ite ?_ ?_)
  · exact .send (by simp [Request.exchange]) nofun
  · exact .bind fun _ => .bind fun _ => .sendSigned _ _ (by simp [Request.exchange]) nofun
  · exact .bind fun _ => .bind fun _ => .send (by simp [Request.exchange]) nofun

/-! ### Contracts -/

protected theorem certificateInstallation (signature : Option Signature)
    (content : CertificateInstallationRes) :
    Follows [.paymentDetails] (certificateInstallation equipment signature content) :=
  .bind fun _ => .bind fun _ => .bind fun _ => .bind fun _ =>
    .send (by simp [Request.exchange]) nofun

protected theorem paymentDetails (content : PaymentDetailsRes) :
    Follows [.authorization] (paymentDetails equipment content) :=
  .sendSigned _ _ (by simp [Request.exchange]) nofun

/-! ### Leave to charge -/

protected theorem authorization (content : AuthorizationRes) :
    Follows [.authorization, .chargeParameterDiscovery] (authorization equipment now content) := by
  refine .ite ?_ (.sendAgain (by simp [Request.exchange]) nofun)
  exact .bind fun _ => .bind fun _ => .send (by simp [Request.exchange]) nofun

protected theorem chargeParameterDiscovery (content : ChargeParameterDiscoveryRes) :
    Follows [.chargeParameterDiscovery, .powerDelivery]
      (chargeParameterDiscovery equipment now content) := by
  refine .ite ?_ (.bind fun _ => .sendAgain (by simp [Request.exchange]) nofun)
  exact .bind fun _ => .bind fun _ => .bind fun _ => .send (by simp [Request.exchange]) nofun

/-! ### Rounds of charging -/

protected theorem demandCurrent (demands : .currentDemand ∈ exchanges) :
    Follows exchanges (demandCurrent equipment) :=
  .bind fun _ => .send demands nofun

protected theorem nextRound (asks : .chargingStatus ∈ exchanges)
    (demands : .currentDemand ∈ exchanges) : Follows exchanges (nextRound equipment) :=
  .bind fun _ => .ite (.send asks nofun) (.demandCurrent demands)

protected theorem changePower (changes : .powerDelivery ∈ exchanges) (progress : ChargeProgress) :
    Follows exchanges (changePower (ω := ω) progress) :=
  .bind fun _ => .send changes nofun

protected theorem stopCharging (changes : .powerDelivery ∈ exchanges) (stop : SessionEnd) :
    Follows exchanges (stopCharging (ω := ω) stop) :=
  .bind fun _ => .changePower changes _

protected theorem heed (changes : .powerDelivery ∈ exchanges) (notification : EvseNotification)
    {otherwise : Turn ω Step} (follows : Follows exchanges otherwise) :
    Follows exchanges (heed notification otherwise) := by
  cases notification with
  | none => exact follows
  | stopCharging => exact .stopCharging changes _
  | renegotiation => exact .bind fun _ => .changePower changes _

protected theorem afterRound (confirms : .meteringReceipt ∈ exchanges)
    (changes : .powerDelivery ∈ exchanges) (report : RoundReport) {another : Turn ω Step}
    (follows : Follows exchanges another) :
    Follows exchanges (afterRound equipment report another) := by
  refine .bind fun context => .ite ?_ (.heed changes _ ?_)
  · cases report.meterInfo with
    | none => exact .fail _
    | some meterInfo => exact .sendReceipt _ _ confirms
  · exact .bind fun goesOn => .ite follows (.bind fun _ => .stopCharging changes _)

protected theorem powerDelivery :
    Follows [.sessionStop, .chargeParameterDiscovery, .chargingStatus, .currentDemand]
      (powerDelivery equipment) := by
  refine .bind fun context => ?_
  cases context.stop with
  | some stop => exact .send (by simp [Request.exchange]) nofun
  | none =>
      refine .ite ?_ (.nextRound (by simp) (by simp))
      exact .bind fun _ => .bind fun _ => .send (by simp [Request.exchange]) nofun

protected theorem chargingStatus (content : ChargingStatusRes) :
    Follows [.meteringReceipt, .powerDelivery, .chargingStatus]
      (chargingStatus equipment content) :=
  .afterRound (by simp) (by simp) _ (.send (by simp [Request.exchange]) nofun)

protected theorem currentDemand (content : CurrentDemandRes) :
    Follows [.meteringReceipt, .powerDelivery, .currentDemand] (currentDemand equipment content) :=
  .afterRound (by simp) (by simp) _ (.demandCurrent (by simp))

protected theorem meteringReceipt (content : MeteringReceiptRes) :
    Follows [.powerDelivery, .chargingStatus, .currentDemand]
      (meteringReceipt equipment content) :=
  .heed (by simp) _ (.nextRound (by simp) (by simp))

end Follows

/-- What a session responds with belongs to an exchange that may follow, and bears the identifier
that the session then has. -/
theorem follows_respond {header : Header} {response : Response} {next : Step}
    {session after : Session ω}
    (responded : respond equipment now header response session = .ok (.next next) after) :
    next.Follows response.exchange.followers after.context := by
  have came {turn : Turn ω Step} (follows : Follows response.exchange.followers turn)
      (responded : (Outcome.next <$> turn) session = .ok (.next next) after) :
      next.Follows response.exchange.followers after.context :=
    follows session next after (next_eq_ok.mp responded)
  cases response with
  | sessionSetup _ => exact came (.sessionSetup _ _) responded
  | serviceDiscovery _ => exact came (.serviceDiscovery _) responded
  | serviceDetail _ => exact came .nextDetailsOrSelection responded
  | paymentServiceSelection _ => exact came .paymentServiceSelection responded
  | certificateInstallation _ => exact came (.certificateInstallation _ _) responded
  | paymentDetails _ => exact came (.paymentDetails _) responded
  | authorization _ => exact came (.authorization _) responded
  | chargeParameterDiscovery _ => exact came (.chargeParameterDiscovery _) responded
  | powerDelivery _ => exact came .powerDelivery responded
  | chargingStatus _ => exact came (.chargingStatus _) responded
  | currentDemand _ => exact came (.currentDemand _) responded
  | meteringReceipt _ => exact came (.meteringReceipt _) responded
  | sessionStop _ =>
      obtain ⟨_, -, ⟨⟩⟩ := map_eq_ok.mp responded

end Turn

/-! ## Passages -/

namespace Passage

variable {equipment : Equipment ω} {first second : Passage ω}

theorem Leads.follows (leads : first.Leads equipment second) :
    second.step.Follows first.step.exchange.followers second.session.context := by
  obtain ⟨header, response, after, -, isAwaited, responded, second_eq⟩ := leads.exists_response
  rw [exchange_move] at isAwaited
  rw [second_eq, ← isAwaited]
  refine (Turn.follows_respond responded).of_sessionId_eq ?_
  exact Context.view_requestSent Context.sessionId (fun _ _ _ => rfl) _ _ _

/-- What a passage leaves behind is still noted while the next response is awaited. -/
theorem Leads.lasts_of_result (leads : first.Leads equipment second) :
    (Turn.sessionOf (first.result equipment)).context.Lasts second.session.context := by
  obtain ⟨after, led, second_eq⟩ := leads
  rw [led, second_eq]
  exact Context.Lasts.requestSent after.context _ _

/-- The response that answers the setup names the session. -/
theorem Leads.sessionId_eq {answer : Message} (leads : first.Leads equipment second)
    (isSetup : first.step.exchange = .sessionSetup) (received : first.received = .ok answer) :
    second.session.context.sessionId = some answer.header.sessionId := by
  have lasts := leads.lasts_of_result
  obtain ⟨after, led, -⟩ := leads
  rw [led] at lasts
  refine lasts.sessionId _ ?_
  obtain ⟨message, response, received', validated, responded⟩ := result_eq_ok.mp led
  obtain rfl : answer = message := Except.ok.inj (received.symm.trans received')
  obtain ⟨-, isAwaited, -⟩ := Context.validate_eq_ok.mp validated
  cases response with
  | sessionSetup content =>
      obtain ⟨-, -, rfl, -⟩ := Turn.sessionSetup_eq_ok.mp (Turn.next_eq_ok.mp responded)
      rfl
  | _ => cases isAwaited.trans isSetup

/-- After the setup the session has an identifier. -/
theorem Leads.isSome_sessionId (leads : first.Leads equipment second)
    (named : first.step.exchange ≠ .sessionSetup → first.session.context.sessionId.isSome = true) :
    second.session.context.sessionId.isSome = true := by
  by_cases isSetup : first.step.exchange = .sessionSetup
  · obtain ⟨after, led, -⟩ := id leads
    obtain ⟨answer, -, received, -⟩ := result_eq_ok.mp led
    rw [leads.sessionId_eq isSetup received]
    rfl
  · obtain ⟨sessionId, isSome⟩ := Option.isSome_iff_exists.mp (named isSetup)
    rw [leads.lasts.sessionId sessionId isSome]
    rfl

end Passage

/-! ## Runs -/

namespace Run

open Passage

variable (equipment : Equipment ω) (cancelAt : Option Milliseconds) (replies : List Reply)
  (session : Session ω)

/-- In every passage of a run the request bears the identifier of the session. -/
theorem exists_follows_passages :
    ∀ passage ∈ passages equipment cancelAt replies 0 (Step.first session.context) session,
      ∃ exchanges, passage.step.Follows exchanges passage.session.context :=
  forall_passages
    ⟨[.sessionSetup], .of_not_receipt (List.mem_singleton.mpr rfl) rfl nofun⟩
    fun _ _ _ leads _ => ⟨_, leads.follows⟩

/-- After the setup the session has an identifier. -/
theorem isSome_sessionId_passages :
    ∀ passage ∈ passages equipment cancelAt replies 0 (Step.first session.context) session,
      passage.step.exchange ≠ .sessionSetup → passage.session.context.sessionId.isSome = true :=
  forall_passages (fun notSetup => absurd rfl notSetup)
    fun _ _ _ leads named _ => leads.isSome_sessionId named

/-- What is noted in a passage is noted in the end. -/
theorem lasts_drive (now : Milliseconds) (step : Step) [step.AwaitsAnswer] :
    ∀ passage ∈ passages equipment cancelAt replies now step session,
      passage.session.context.Lasts
        (drive equipment cancelAt replies now step session).session.context := by
  have chain := isChain_passages equipment cancelAt replies now step session
  refine chain.backwards_induction _ _ (fun _ _ leads => leads.lasts.trans) fun notNil => ?_
  rw [drive_eq_getLast equipment cancelAt replies now step session notNil]
  exact (lasts_result equipment _).trans (lasts_conclusion equipment _)

variable {now : Milliseconds} {step : Step} {front back : List (Passage ω)}
  {first second passage : Passage ω}

/-- Of two passages in a row the first leads to the second. -/
theorem leads_of_passages_eq
    (shape : passages equipment cancelAt replies now step session =
      front ++ first :: second :: back) : first.Leads equipment second := by
  have chain := isChain_passages equipment cancelAt replies now step session
  rw [shape] at chain
  exact (List.isChain_cons_cons.mp (List.isChain_append.mp chain).2.1).1

/-- A passage that fails is the last one, and the run fails as it does. -/
theorem eq_nil_of_result_eq_error {error : SessionError} {after : Session ω}
    (shape : passages equipment cancelAt replies now step session = front ++ passage :: back)
    (failed : passage.result equipment = .error error after)
    [step.AwaitsAnswer] :
    back = [] ∧
      drive equipment cancelAt replies now step session =
        { fail passage.endedAt error after with
          sent := (passages equipment cancelAt replies now step session).map sending } := by
  obtain rfl : back = [] := by
    cases back with
    | nil => rfl
    | cons next back =>
        obtain ⟨between, led, -⟩ := leads_of_passages_eq equipment cancelAt replies session shape
        rw [failed] at led
        cases led
  have notNil : passages equipment cancelAt replies now step session ≠ [] := by simp [shape]
  have isLast :
      (passages equipment cancelAt replies now step session).getLast notNil = passage := by
    simp [shape]
  refine ⟨rfl, ?_⟩
  rw [drive_eq_getLast equipment cancelAt replies now step session notNil, isLast, conclusion,
    failed]

/-- Any request but the setup follows upon a passage before it. -/
theorem exists_previous
    (shape : passages equipment cancelAt replies 0 (Step.first session.context) session =
      front ++ passage :: back) (notSetup : passage.step.exchange ≠ .sessionSetup) :
    ∃ before previous, front = before ++ [previous] ∧ previous.Leads equipment passage ∧
      previous ∈ passages equipment cancelAt replies 0 (Step.first session.context) session := by
  obtain rfl | ⟨before, previous, rfl⟩ := List.eq_nil_or_concat' front
  · obtain rfl := eq_begin_of_passages_eq equipment cancelAt shape
    exact absurd rfl notSetup
  · rw [List.append_assoc] at shape
    exact ⟨before, previous, rfl, leads_of_passages_eq equipment cancelAt replies session shape,
      shape ▸ List.mem_append_right _ List.mem_cons_self⟩

/-- The setup is the first request and no other one. -/
theorem eq_nil_of_sessionSetup
    (shape : passages equipment cancelAt replies 0 (Step.first session.context) session =
      front ++ passage :: back) (setsUp : passage.step.exchange = .sessionSetup) : front = [] := by
  obtain rfl | ⟨before, previous, rfl⟩ := List.eq_nil_or_concat' front
  · rfl
  · rw [List.append_assoc] at shape
    have follows := leads_of_passages_eq equipment cancelAt replies session shape |>.follows
    have isFollower := follows.exchange_mem
    rw [setsUp] at isFollower
    exact absurd isFollower previous.step.exchange.sessionSetup_notMem_followers

/-- The second request asks for the offer, in a session that nothing but the setup has changed. -/
theorem exists_setup
    (shape : passages equipment cancelAt replies 0 (Step.first session.context) session =
      front ++ passage :: back) (discovers : passage.step.exchange = .serviceDiscovery) :
    ∃ setup sessionId evseId issued, front = [setup] ∧
      passage.session =
        { session with
          context :=
            { session.context with
              sessionId := some sessionId, evseId := some evseId
              ongoingSince := none, issuedAt := some issued } } := by
  obtain ⟨before, setup, rfl, leads, -⟩ :=
    exists_previous equipment cancelAt replies session shape (by simp [discovers])
  have setsUp : setup.step.exchange = .sessionSetup :=
    Exchange.eq_sessionSetup_of_follows (discovers ▸ leads.follows.exchange_mem)
  rw [List.append_assoc] at shape
  obtain rfl := eq_nil_of_sessionSetup equipment cancelAt replies session shape setsUp
  have setup_eq := eq_begin_of_passages_eq equipment cancelAt shape
  obtain ⟨header, response, after, -, awaited, responded, passage_eq⟩ := leads.exists_response
  rw [exchange_move, setsUp] at awaited
  cases response with
  | sessionSetup content =>
      obtain ⟨-, -, rfl, step_eq⟩ := Turn.sessionSetup_eq_ok.mp (Turn.next_eq_ok.mp responded)
      refine ⟨setup, header.sessionId, content.evseId, setup.endedAt, rfl, ?_⟩
      rw [passage_eq, step_eq, setup_eq]
      rfl
  | _ => cases awaited

/-- What holds of a passage and is passed on from each passage to the next one holds of all that
come later. -/
theorem forall_later {holds : Passage ω → Prop}
    (shape : passages equipment cancelAt replies now step session = front ++ passage :: back)
    (isHolding : holds passage)
    (passesOn : ∀ first second, first.Leads equipment second → holds first → holds second) :
    ∀ later ∈ back, holds later := by
  have chain := isChain_passages equipment cancelAt replies now step session
  rw [shape] at chain
  have holdsOn := (List.isChain_append.mp chain).2.1.induction _ _ passesOn fun _ => isHolding
  exact fun later isLater => holdsOn later (List.mem_cons_of_mem _ isLater)

/-- The first passage of a run does not need something, and any other one needs it only if the one
before it has needed or given it.  Then to whatever passage needs it, an earlier one has given it.
-/
theorem exists_earlier (needs : Passage ω → Prop) {gives : Passage ω → Prop}
    (shape : passages equipment cancelAt replies now step session = front ++ passage :: back)
    (begins : ¬needs (begin cancelAt now step session replies))
    (passesOn : ∀ first second, first.Leads equipment second → needs second →
      needs first ∨ gives first)
    (needed : needs passage) : ∃ earlier ∈ front, gives earlier := by
  induction front using List.reverseRecOn generalizing passage back with
  | nil =>
      obtain rfl := eq_begin_of_passages_eq equipment cancelAt shape
      exact absurd needed begins
  | append_singleton front before ih =>
      rw [List.append_assoc] at shape
      have leads := leads_of_passages_eq equipment cancelAt replies session shape
      obtain neededBefore | given := passesOn before passage leads needed
      · obtain ⟨earlier, isEarlier, given⟩ := ih shape neededBefore
        exact ⟨earlier, List.mem_append_left _ isEarlier, given⟩
      · exact ⟨before, List.mem_append_right _ (List.mem_singleton.mpr rfl), given⟩

end Run

/-! ## Scenarios -/

namespace Scenario

theorem sends_passages (scenario : Scenario) : ∀ passage ∈ scenario.passages,
    passage.session.Sends scenario.equipment passage.step :=
  Run.sends_passages _ _ _ _

variable {scenario : Scenario} {front back : List (Passage Onboard)}
  {first second passage : Passage Onboard}

theorem peer_eq (isPassage : passage ∈ scenario.passages) :
    passage.session.context.peer = scenario.peer :=
  congrArg Context.Terms.peer (Run.terms_passages _ _ _ _ _ _ passage isPassage)

/-- In a request from the selection on, the context holds what a scenario has settled on. -/
theorem settled_eq (isPassage : passage ∈ scenario.passages)
    (notSetup : passage.step.exchange ≠ .sessionSetup)
    (notOffer : passage.step.exchange ≠ .serviceDiscovery) :
    passage.session.context.paymentOption = scenario.run.session.context.paymentOption ∧
      passage.session.context.energyMode = scenario.run.session.context.energyMode := by
  rw [← Passage.exchange_move] at notSetup notOffer
  have settled := scenario.settlement_eq passage isPassage
    (Move.isSettled_of_exchange_ne notSetup notOffer)
  exact Prod.ext_iff.mp (congrArg Prod.snd settled)

theorem leads_of_passages_eq (shape : scenario.passages = front ++ first :: second :: back) :
    first.Leads scenario.equipment second :=
  Run.leads_of_passages_eq _ _ _ _ shape

/-- Any request but the setup follows upon one that it may follow. -/
theorem exists_previous (shape : scenario.passages = front ++ passage :: back)
    (notSetup : passage.step.exchange ≠ .sessionSetup) :
    ∃ before previous, front = before ++ [previous] ∧
      scenario.passages = before ++ previous :: passage :: back ∧
      previous.Leads scenario.equipment passage ∧
      previous.move ∈ passage.move.predecessors := by
  obtain ⟨before, previous, rfl, leads, isPrevious⟩ := Run.exists_previous _ _ _ _ shape notSetup
  rw [List.append_assoc] at shape
  exact ⟨before, previous, rfl, shape, leads,
    leads.mem_predecessors scenario.onlyStarts (scenario.fits previous isPrevious)⟩

/-- A passage that fails is the last one, and the run fails as it does. -/
theorem eq_nil_of_result_eq_error {error : SessionError} {after : Session Onboard}
    (shape : scenario.passages = front ++ passage :: back)
    (failed : passage.result scenario.equipment = .error error after) :
    back = [] ∧ scenario.run =
      { Run.fail passage.endedAt error after with
        sent := scenario.passages.map Passage.sending } :=
  Run.eq_nil_of_result_eq_error _ _ _ _ shape failed

end Scenario
end PlugAndCharge
