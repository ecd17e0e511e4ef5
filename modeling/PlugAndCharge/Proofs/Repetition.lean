import PlugAndCharge.Proofs.Reaction

/-!
# Which requests are repeated

A request is repeated only while the station is still working on it, which a station can say of two
exchanges.  Everything else that follows from a response is a new request with the wait that is set
for it, whose own response is awaited, or a failure that has nothing to do with the time for
repetitions or with whether the response is acceptable.
-/

namespace PlugAndCharge

/-- A step after which the response to its own request is awaited. -/
class Step.AwaitsAnswer (step : Step) : Prop where
  awaited_eq : step.awaited = step.exchange

instance Step.awaitsAnswer_first (context : Context) : (first context).AwaitsAnswer :=
  ⟨rfl⟩

/-- A request that repeats no other, whose response is awaited for as long as is set for it. -/
structure Step.IsNew (step : Step) (timeouts : Timeouts) : Prop extends step.AwaitsAnswer where
  notRepeated : step.repeated = false
  timeout_eq : step.timeout = timeouts.forExchange step.exchange

theorem Step.isNew_ofRequest (context : Context) {awaited : Exchange} {request : Request}
    (opens : request.exchange = awaited) :
    (ofRequest context awaited request).IsNew context.timeouts :=
  ⟨⟨opens.symm⟩, rfl, rfl⟩

/-- Whether a response says that the station is still working on the request. -/
def Response.isOngoing : Response → Bool
  | .authorization content => !content.processing.isFinished
  | .chargeParameterDiscovery content => !content.processing.isFinished
  | _ => false

theorem Response.exchange_of_isOngoing {response : Response} (ongoing : response.isOngoing = true) :
    response.exchange = .authorization ∨ response.exchange = .chargeParameterDiscovery := by
  cases response with
  | authorization content => exact .inl rfl
  | chargeParameterDiscovery content => exact .inr rfl
  | _ => cases ongoing

/-- A failure to go on at once from a response that is accepted: of the vehicle, its certificates
and keys or its record of the session. -/
def SessionError.isPrompt : SessionError → Bool
  | .alreadyAssigned _ | .incompatible _ | .crypto _ _ | .missingResource _ | .vehicle _ => true
  | _ => false

namespace SessionError

variable {error : SessionError}

theorem failureClass_of_isPrompt (prompt : error.isPrompt = true) :
    error.failureClass ≠ .ongoingTimeout := by
  revert prompt
  cases error <;> simp [isPrompt, failureClass]

@[simp] theorem isPrompt_ofPki (activity : Activity) (error : PkiError) :
    (ofPki activity error).isPrompt = true := by
  unfold ofPki
  split <;> rfl

end SessionError

namespace Turn

variable {ω α β : Type} {equipment : Equipment ω} {now : Milliseconds}

/-- A result is as `post` describes, or a failure to go on at once. -/
def ComesTo (post : α → Session ω → Prop) : EStateM.Result SessionError (Session ω) α → Prop
  | .ok value after => post value after
  | .error error _ => error.isPrompt = true

/-- A turn comes to what `post` describes from every session. -/
def IsPrompt (post : α → Session ω → Prop) (turn : Turn ω α) : Prop :=
  ∀ session, ComesTo post (turn session)

/-- A turn that decides on a new request. -/
abbrev SendsNew (turn : Turn ω Step) : Prop :=
  IsPrompt (fun step after => step.IsNew after.context.timeouts) turn

namespace IsPrompt

variable {post : α → Session ω → Prop}

/-! ## Parts of a turn -/

protected theorem bind {middle : β → Session ω → Prop} {turn : Turn ω β} {next : β → Turn ω α}
    (first : IsPrompt middle turn) (second : ∀ value, IsPrompt post (next value)) :
    IsPrompt post (turn >>= next) := by
  intro session
  have prompt := first session
  simp only [bind, EStateM.bind]
  cases result : turn session with
  | ok value between => exact second value between
  | error error between =>
      rw [result] at prompt
      exact prompt

protected theorem ite {condition : Prop} [Decidable condition] {first second : Turn ω α}
    (promptFirst : IsPrompt post first) (promptSecond : IsPrompt post second) :
    IsPrompt post (if condition then first else second) := by
  split
  · exact promptFirst
  · exact promptSecond

protected theorem context : IsPrompt (fun _ _ => True) (context (ω := ω)) :=
  fun _ => trivial

protected theorem ask (question : ω → α) : IsPrompt (fun _ _ => True) (ask question) :=
  fun _ => trivial

protected theorem update (change : Context → Context) :
    IsPrompt (fun _ _ => True) (update (ω := ω) change) :=
  fun _ => trivial

protected theorem choose (action : ω → α × ω) : IsPrompt (fun _ _ => True) (choose action) :=
  fun _ => trivial

protected theorem pure (value : α) : IsPrompt (fun _ _ => True) (pure value : Turn ω α) :=
  fun _ => trivial

protected theorem fail {error : SessionError} (prompt : error.isPrompt = true) :
    IsPrompt post (fail error) :=
  fun _ => prompt

protected theorem tryUpdate {change : Context → Except SessionError Context}
    (prompt : ∀ context error, change context = .error error → error.isPrompt = true) :
    IsPrompt (fun _ _ => True) (tryUpdate (ω := ω) change) := by
  intro session
  unfold tryUpdate
  cases result : change session.context with
  | ok context => trivial
  | error error => exact prompt _ _ result

protected theorem selectedSchedule :
    IsPrompt (fun _ _ => True) (consult (ω := ω) Context.selectedSchedule) := by
  intro session
  unfold consult Context.selectedSchedule
  cases session.context.schedule with
  | none => rfl
  | some schedule => trivial

protected theorem act (action : ω → Except VehicleError α × ω) :
    IsPrompt (fun _ _ => True) (act action) := by
  intro session
  unfold act
  rcases action session.onboard with ⟨error | value, onboard⟩
  · rfl
  · trivial

protected theorem useCredentials (activity : Activity) (use : ω → Except PkiError α) :
    IsPrompt (fun _ _ => True) (useCredentials activity use) := by
  intro session
  unfold useCredentials
  cases use session.onboard with
  | ok value => trivial
  | error error => exact SessionError.isPrompt_ofPki activity error

protected theorem send {awaited : Exchange} {request : Request}
    (opens : request.exchange = awaited) : SendsNew (send (ω := ω) awaited request) :=
  fun session => Step.isNew_ofRequest session.context opens

protected theorem sendSigned [Json.Wire α] (credentials : Credentials ω) (slot : KeySlot)
    {content : α} {awaited : Exchange} {request : α → Request}
    (opens : (request content).exchange = awaited) :
    SendsNew (sendSigned credentials slot content awaited request) := by
  refine (IsPrompt.useCredentials _ _).bind fun signature session => ?_
  have isNew := Step.isNew_ofRequest session.context opens
  exact (⟨⟨isNew.awaited_eq⟩, isNew.notRepeated, isNew.timeout_eq⟩ :
    { Step.ofRequest session.context awaited (request content) with
      signature := some signature }.IsNew session.context.timeouts)

/-! ## Setting up -/

protected theorem sessionSetup (sessionId : SessionId) (content : SessionSetupRes) :
    SendsNew (sessionSetup (ω := ω) sessionId content) := by
  refine (IsPrompt.tryUpdate fun context error failed => ?_).bind fun _ =>
    (IsPrompt.tryUpdate fun context error failed => ?_).bind fun _ => IsPrompt.send rfl
  · unfold Context.assignSessionId at failed
    split at failed
    · cases failed
      rfl
    · cases failed
  · unfold Context.assignEvseId at failed
    split at failed
    · cases failed
      rfl
    · cases failed

protected theorem nextDetailsOrSelection :
    SendsNew (nextDetailsOrSelection (ω := ω)) := by
  refine IsPrompt.context.bind fun context => ?_
  cases context.pendingDetails with
  | nil => exact IsPrompt.send rfl
  | cons serviceId rest => exact (IsPrompt.update _).bind fun _ => IsPrompt.send rfl

protected theorem serviceDiscovery (content : ServiceDiscoveryRes) :
    SendsNew (serviceDiscovery equipment content) := by
  unfold Turn.serviceDiscovery
  cases content.chargeService with
  | none => exact IsPrompt.fail rfl
  | some chargeService =>
      refine IsPrompt.context.bind fun context => ?_
      refine (IsPrompt.update _).bind fun _ => ?_
      refine (IsPrompt.ask _).bind fun ownMode => IsPrompt.ite (IsPrompt.fail rfl) ?_
      refine (IsPrompt.update _).bind fun _ => ?_
      refine (IsPrompt.ask _).bind fun certInstallNeeded => ?_
      dsimp only
      split
      · refine IsPrompt.ite ?_ IsPrompt.nextDetailsOrSelection
        exact (IsPrompt.update _).bind fun _ => IsPrompt.nextDetailsOrSelection
      · exact IsPrompt.nextDetailsOrSelection

protected theorem paymentServiceSelection :
    SendsNew (paymentServiceSelection equipment) := by
  refine IsPrompt.context.bind fun context => IsPrompt.ite (IsPrompt.send rfl) ?_
  refine (IsPrompt.ask _).bind fun certInstallNeeded => IsPrompt.ite ?_ ?_
  · exact (IsPrompt.useCredentials _ _).bind fun _ => (IsPrompt.useCredentials _ _).bind fun _ =>
      IsPrompt.sendSigned _ _ rfl
  · exact (IsPrompt.useCredentials _ _).bind fun _ => (IsPrompt.useCredentials _ _).bind fun _ =>
      IsPrompt.send rfl

/-! ## Contracts -/

protected theorem certificateInstallation (signature : Option Signature)
    (content : CertificateInstallationRes) :
    SendsNew (certificateInstallation equipment signature content) :=
  (IsPrompt.useCredentials _ _).bind fun _ => (IsPrompt.useCredentials _ _).bind fun _ =>
    (IsPrompt.act _).bind fun _ => (IsPrompt.useCredentials _ _).bind fun _ => IsPrompt.send rfl

/-! ## Charging -/

protected theorem chargeParameterRequest :
    IsPrompt (fun _ _ => True) (chargeParameterRequest equipment) :=
  IsPrompt.context.bind fun _ => (IsPrompt.ask _).bind fun _ => IsPrompt.pure _

protected theorem nextRound : SendsNew (nextRound equipment) :=
  IsPrompt.context.bind fun _ =>
    IsPrompt.ite (IsPrompt.send rfl) ((IsPrompt.act _).bind fun _ => IsPrompt.send rfl)

protected theorem changePower (progress : ChargeProgress) :
    SendsNew (changePower (ω := ω) progress) :=
  IsPrompt.selectedSchedule.bind fun _ => IsPrompt.send rfl

protected theorem stopCharging (stop : SessionEnd) :
    SendsNew (stopCharging (ω := ω) stop) :=
  (IsPrompt.update _).bind fun _ => IsPrompt.changePower _

protected theorem heed (notification : EvseNotification) {otherwise : Turn ω Step}
    (prompt : SendsNew otherwise) : SendsNew (heed notification otherwise) := by
  cases notification with
  | none => exact prompt
  | stopCharging => exact IsPrompt.stopCharging _
  | renegotiation => exact (IsPrompt.update _).bind fun _ => IsPrompt.changePower _

protected theorem afterRound (report : RoundReport) {another : Turn ω Step}
    (prompt : SendsNew another) : SendsNew (afterRound equipment report another) := by
  refine IsPrompt.context.bind fun context => IsPrompt.ite ?_ (IsPrompt.heed _ ?_)
  · cases report.meterInfo with
    | none => exact IsPrompt.fail rfl
    | some meterInfo => exact IsPrompt.context.bind fun _ => IsPrompt.sendSigned _ _ rfl
  · refine (IsPrompt.choose _).bind fun goesOn => IsPrompt.ite prompt ?_
    exact (IsPrompt.ask _).bind fun _ => IsPrompt.stopCharging _

protected theorem powerDelivery : SendsNew (powerDelivery equipment) := by
  refine IsPrompt.context.bind fun context => ?_
  cases context.stop with
  | some stop => exact IsPrompt.send rfl
  | none =>
      refine IsPrompt.ite ?_ IsPrompt.nextRound
      exact (IsPrompt.update _).bind fun _ =>
        IsPrompt.chargeParameterRequest.bind fun _ => IsPrompt.send rfl

/-! ## Any response -/

/-- What follows from a response is a new request, if it is one. -/
abbrev OutcomeIsNew (outcome : Outcome) (after : Session ω) : Prop :=
  ∀ next, outcome = .next next → next.IsNew after.context.timeouts

protected theorem next {turn : Turn ω Step} (sendsNew : SendsNew turn) :
    IsPrompt OutcomeIsNew (Outcome.next <$> turn) := by
  intro session
  have prompt := sendsNew session
  simp only [Functor.map, EStateM.map]
  cases result : turn session with
  | ok step after =>
      rw [result] at prompt
      intro next next_eq
      cases next_eq
      exact prompt
  | error error after =>
      rw [result] at prompt
      exact prompt

end IsPrompt

/-- The station is still working on a request, which is sent again, or what follows from the
response is prompt. -/
theorem respond_eq_sendAgain_or_comesTo (header : Header) (response : Response)
    (session : Session ω) :
    (response.isOngoing = true ∧ ∃ request, request.exchange = response.exchange ∧
        respond equipment now header response session =
          (Outcome.next <$> sendAgain now request.exchange request) session) ∨
      ComesTo IsPrompt.OutcomeIsNew (respond equipment now header response session) := by
  cases response with
  | authorization content =>
      simp only [respond, authorization]
      by_cases finished : content.processing.isFinished = true
      · rw [if_pos finished]
        refine .inr (IsPrompt.next ?_ session)
        exact (IsPrompt.update _).bind fun _ =>
          IsPrompt.chargeParameterRequest.bind fun _ => IsPrompt.send rfl
      · rw [if_neg finished]
        exact .inl ⟨by simpa [Response.isOngoing] using finished, _, rfl, rfl⟩
  | chargeParameterDiscovery content =>
      simp only [respond, chargeParameterDiscovery]
      by_cases finished : content.processing.isFinished = true
      · rw [if_pos finished]
        refine .inr (IsPrompt.next ?_ session)
        exact (IsPrompt.update _).bind fun _ => (IsPrompt.act _).bind fun _ =>
          (IsPrompt.update _).bind fun _ => IsPrompt.send rfl
      · rw [if_neg finished]
        exact .inl ⟨by simpa [Response.isOngoing] using finished,
          .chargeParameterDiscovery (chargeParametersOf equipment session), rfl, rfl⟩
  | sessionStop content =>
      refine .inr fun next next_eq => ?_
      cases next_eq
  | sessionSetup content => exact .inr (IsPrompt.next (.sessionSetup _ _) session)
  | serviceDiscovery content => exact .inr (IsPrompt.next (.serviceDiscovery _) session)
  | serviceDetail content => exact .inr (IsPrompt.next .nextDetailsOrSelection session)
  | paymentServiceSelection content =>
      exact .inr (IsPrompt.next .paymentServiceSelection session)
  | certificateInstallation content =>
      exact .inr (IsPrompt.next (.certificateInstallation _ _) session)
  | paymentDetails content => exact .inr (IsPrompt.next (.sendSigned _ _ rfl) session)
  | powerDelivery content => exact .inr (IsPrompt.next .powerDelivery session)
  | chargingStatus content =>
      refine .inr (IsPrompt.next (.afterRound _ ?_) session)
      exact IsPrompt.send rfl
  | currentDemand content =>
      refine .inr (IsPrompt.next (.afterRound _ ?_) session)
      exact (IsPrompt.act _).bind fun _ => IsPrompt.send rfl
  | meteringReceipt content =>
      exact .inr (IsPrompt.next (.heed _ .nextRound) session)

/-- Whatever is sent next, it is its own response that is awaited. -/
theorem awaitsAnswer_of_respond {header : Header} {response : Response} {next : Step}
    {session after : Session ω}
    (responded : respond equipment now header response session = .ok (.next next) after) :
    next.AwaitsAnswer := by
  obtain ⟨-, request, -, again⟩ | prompt :=
    @respond_eq_sendAgain_or_comesTo _ equipment now header response session
  · rw [again, next_eq_ok, sendAgain_eq_ok] at responded
    obtain ⟨_, -, -, rfl⟩ := responded
    exact ⟨rfl⟩
  · rw [responded] at prompt
    exact (prompt next rfl).toAwaitsAnswer

/-- A request that is sent again fails only because the time for it and its repetitions has run
out. -/
theorem sendAgain_eq_error {awaited : Exchange} {request : Request} {error : SessionError}
    {session after : Session ω} :
    sendAgain now awaited request session = .error error after ↔
      let started := (session.context.ongoingSince.or session.context.issuedAt).getD now
      session.context.timeouts.ongoingBudget < now - started ∧
        error = .ongoingTimeout (.response request.exchange) (now - started) ∧
        after = { session with context := { session.context with ongoingSince := none } } := by
  rw [sendAgain, send_bind]
  simp only [bind, EStateM.bind, alter, Context.noteOngoing]
  by_cases late : session.context.timeouts.ongoingBudget <
      now - (session.context.ongoingSince.or session.context.issuedAt).getD now
  · simp only [late, if_true, EStateM.Result.error.injEq, true_and]
    exact and_congr eq_comm eq_comm
  · simp only [late, if_false, false_and, iff_false]
    intro failed
    cases failed

end Turn
end PlugAndCharge
