import PlugAndCharge.Proofs.Onboard

/-!
# What a session sends

Every turn that comes to a request comes to one that the session after the turn accounts for: where
the request repeats something that the vehicle has settled on or chosen, the context holds it, and
where one of its elements is signed, the signature is of this element by a key that is on board.
-/

namespace PlugAndCharge

variable {ω : Type}

/-- The one element of a request that is signed, and whose key signs it. -/
def Request.signable? : Request → Option (SignedElement × KeySlot)
  | .certificateInstallation content => some (.ofValue content.id content, .oemLeaf)
  | .authorization content =>
    match content.id, content.genChallenge with
    | some id, some _ => some (.ofValue id content, .contractLeaf)
    | _, _ => none
  | .meteringReceipt content => some (.ofValue content.id content, .contractLeaf)
  | _ => none

/-- A step carries a signature of the one element of its request that is signed, and none if there
is no such element. -/
def Step.IsSigned (credentials : Credentials ω) (state : ω) (step : Step) : Prop :=
  match step.request.signable? with
  | none => step.signature = none
  | some (element, slot) =>
    ∃ signature, credentials.sign state [element] slot = .ok signature ∧
      step.signature = some signature

namespace Step.IsSigned

variable {credentials : Credentials ω} {state : ω} {step : Step}

theorem signature_eq_none_iff (isSigned : step.IsSigned credentials state) :
    step.signature = none ↔ step.request.signable? = none := by
  unfold Step.IsSigned at isSigned
  cases signable : step.request.signable? with
  | none => simpa [signable] using isSigned
  | some signed =>
      rw [signable] at isSigned
      obtain ⟨signature, -, has⟩ := isSigned
      simp [has]

theorem exists_signable {signature : Signature} (isSigned : step.IsSigned credentials state)
    (has : step.signature = some signature) :
    ∃ element slot, step.request.signable? = some (element, slot) ∧
      credentials.sign state [element] slot = .ok signature := by
  unfold Step.IsSigned at isSigned
  cases signable : step.request.signable? with
  | none =>
      rw [signable, has] at isSigned
      cases isSigned
  | some signed =>
      obtain ⟨element, slot⟩ := signed
      rw [signable] at isSigned
      obtain ⟨_, signs, same⟩ := isSigned
      rw [has] at same
      cases same
      exact ⟨element, slot, rfl, signs⟩

end Step.IsSigned

/-- What a request repeats of a session is what the session holds. -/
def Request.Repeats (equipment : Equipment ω) (session : Session ω) : Request → Prop
  | .paymentServiceSelection content => content = session.context.paymentSelection
  | .chargeParameterDiscovery content => content = Turn.chargeParametersOf equipment session
  | .powerDelivery content => session.context.schedule = some content.scheduleTupleId
  | .sessionStop content => session.context.stop = some content.chargingSession
  | _ => True

/-- A session accounts for a step. -/
structure Session.Sends (equipment : Equipment ω) (session : Session ω) (step : Step) : Prop where
  repeats : step.request.Repeats equipment session
  isSigned : step.IsSigned equipment.credentials session.onboard

namespace Session.Sends

variable {equipment : Equipment ω} {session : Session ω} {request : Request}

theorem ofRequest {context : Context} {awaited : Exchange}
    (repeats : request.Repeats equipment session)
    (notSignable : request.signable? = none) :
    session.Sends equipment (Step.ofRequest context awaited request) := by
  refine ⟨repeats, ?_⟩
  simp only [Step.IsSigned, Step.ofRequest, notSignable]

theorem asRepetition {step : Step} (sends : session.Sends equipment step)
    (timeout : Milliseconds) : session.Sends equipment (step.asRepetition timeout) :=
  ⟨sends.repeats, sends.isSigned⟩

theorem ofSigned {context : Context} {awaited : Exchange} {element : SignedElement}
    {slot : KeySlot} {signature : Signature} (repeats : request.Repeats equipment session)
    (signable : request.signable? = some (element, slot))
    (signs : equipment.credentials.sign session.onboard [element] slot = .ok signature) :
    session.Sends equipment
      { Step.ofRequest context awaited request with signature := some signature } := by
  refine ⟨repeats, ?_⟩
  simp only [Step.IsSigned, Step.ofRequest, signable]
  exact ⟨signature, signs, rfl⟩

end Session.Sends

namespace Turn

open Session.Sends

variable {equipment : Equipment ω} {session after : Session ω} {next : Step} {now : Milliseconds}

private theorem sends_nextDetailsOrSelection
    (responded : nextDetailsOrSelection session = .ok next after) :
    after.Sends equipment next := by
  obtain ⟨-, rfl, rfl⟩ | ⟨serviceId, rest, -, rfl, rfl⟩ :=
    nextDetailsOrSelection_eq_ok.mp responded
  · exact ofRequest rfl rfl
  · exact ofRequest trivial rfl

private theorem sends_paymentServiceSelection
    (responded : paymentServiceSelection equipment session = .ok next after) :
    after.Sends equipment next := by
  obtain ⟨-, rfl, rfl⟩ | ⟨-, -, responded⟩ | ⟨-, -, responded⟩ :=
    paymentServiceSelection_eq_ok.mp responded
  · exact ofRequest trivial rfl
  · obtain ⟨_, _, signature, -, -, signs, rfl, rfl⟩ := requestContract_eq_ok.mp responded
    exact ofSigned trivial rfl signs
  · obtain ⟨_, _, -, -, rfl, rfl⟩ := presentContract_eq_ok.mp responded
    exact ofRequest trivial rfl

private theorem sends_sendAgain {awaited : Exchange} {request : Request}
    (responded : sendAgain now awaited request session = .ok next after)
    (repeats : ∀ ongoingSince, request.Repeats equipment
      { session with context := { session.context with ongoingSince } })
    (notSignable : request.signable? = none) : after.Sends equipment next := by
  obtain ⟨timeout, noted, kept, rfl⟩ := sendAgain_eq_ok.mp responded
  obtain ⟨-, -, changed⟩ := Context.noteOngoing_eq_ok.mp noted
  obtain ⟨context, onboard⟩ := after
  cases changed
  cases kept
  exact (ofRequest (repeats _) notSignable).asRepetition timeout

private theorem sends_changePower {progress : ChargeProgress}
    (responded : changePower progress session = .ok next after) : after.Sends equipment next := by
  obtain ⟨schedule, chosen, rfl, rfl⟩ := changePower_eq_ok.mp responded
  exact ofRequest chosen rfl

private theorem sends_demandCurrent
    (responded : demandCurrent equipment session = .ok next after) :
    after.Sends equipment next := by
  obtain ⟨_, -, -, rfl⟩ := demandCurrent_eq_ok.mp responded
  exact ofRequest trivial rfl

private theorem sends_nextRound (responded : nextRound equipment session = .ok next after) :
    after.Sends equipment next := by
  obtain ⟨-, -, rfl⟩ | ⟨-, responded⟩ := nextRound_eq_ok.mp responded
  · exact ofRequest trivial rfl
  · exact sends_demandCurrent responded

private theorem sends_heed {notification : EvseNotification} {otherwise : Turn ω Step}
    (sends : otherwise session = .ok next after → after.Sends equipment next)
    (responded : heed notification otherwise session = .ok next after) :
    after.Sends equipment next := by
  cases notification with
  | none => exact sends responded
  | stopCharging => exact sends_changePower (stopCharging_eq_ok.mp responded)
  | renegotiation => exact sends_changePower (renegotiate_eq_ok.mp responded)

private theorem sends_afterRound {report : RoundReport} {another : Turn ω Step}
    (sends : ∀ onboard, another { session with onboard } = .ok next after →
      after.Sends equipment next)
    (responded : afterRound equipment report another session = .ok next after) :
    after.Sends equipment next := by
  obtain ⟨-, -, meterInfo, -, responded⟩ | ⟨-, responded⟩ := afterRound_eq_ok.mp responded
  · obtain ⟨signature, signs, rfl, rfl⟩ := sendReceipt_eq_ok.mp responded
    exact ofSigned trivial rfl signs
  · refine sends_heed (fun responded => ?_) responded
    obtain ⟨-, responded⟩ | ⟨-, responded⟩ := continueOrStop_eq_ok.mp responded
    · exact sends _ responded
    · exact sends_changePower (stopCharging_eq_ok.mp responded)

/-- The session after a response accounts for the next request. -/
theorem sends_respond {header : Header} {response : Response}
    (responded : respond equipment now header response session = .ok (.next next) after) :
    after.Sends equipment next := by
  cases response with
  | sessionSetup content =>
      obtain ⟨-, -, rfl, rfl⟩ := sessionSetup_eq_ok.mp (next_eq_ok.mp responded)
      exact ofRequest trivial rfl
  | serviceDiscovery content =>
      obtain ⟨_, -, -, responded⟩ := serviceDiscovery_eq_ok.mp (next_eq_ok.mp responded)
      exact sends_nextDetailsOrSelection responded
  | serviceDetail content => exact sends_nextDetailsOrSelection (next_eq_ok.mp responded)
  | paymentServiceSelection content =>
      exact sends_paymentServiceSelection (next_eq_ok.mp responded)
  | certificateInstallation content =>
      obtain ⟨_, _, -, -, -, -, -, rfl⟩ :=
        certificateInstallation_eq_ok.mp (next_eq_ok.mp responded)
      exact ofRequest trivial rfl
  | paymentDetails content =>
      obtain ⟨signature, signs, rfl, rfl⟩ := paymentDetails_eq_ok.mp (next_eq_ok.mp responded)
      exact ofSigned trivial rfl signs
  | authorization content =>
      obtain ⟨-, rfl, rfl⟩ | ⟨-, responded⟩ := authorization_eq_ok.mp (next_eq_ok.mp responded)
      · exact ofRequest rfl rfl
      · exact sends_sendAgain responded (fun _ => trivial) rfl
  | chargeParameterDiscovery content =>
      obtain ⟨-, _, -, rfl, rfl⟩ | ⟨-, responded⟩ :=
        chargeParameterDiscovery_eq_ok.mp (next_eq_ok.mp responded)
      · exact ofRequest rfl rfl
      · exact sends_sendAgain responded (fun _ => rfl) rfl
  | powerDelivery content =>
      obtain ⟨stop, stopping, rfl, rfl⟩ | ⟨-, -, rfl, rfl⟩ | ⟨-, -, responded⟩ :=
        powerDelivery_eq_ok.mp (next_eq_ok.mp responded)
      · exact ofRequest stopping rfl
      · exact ofRequest rfl rfl
      · exact sends_nextRound responded
  | chargingStatus content =>
      refine sends_afterRound (fun onboard responded => ?_) (next_eq_ok.mp responded)
      obtain ⟨-, rfl⟩ := send_eq_ok.mp responded
      exact ofRequest trivial rfl
  | currentDemand content =>
      exact sends_afterRound (fun _ => sends_demandCurrent) (next_eq_ok.mp responded)
  | meteringReceipt content => exact sends_heed sends_nextRound (next_eq_ok.mp responded)
  | sessionStop content =>
      obtain ⟨_, -, ⟨⟩⟩ := map_eq_ok.mp responded

end Turn

namespace Run

/-- In every passage of a run the session accounts for the request. -/
theorem sends_passages (equipment : Equipment ω) (cancelAt : Option Milliseconds)
    (replies : List Reply) (session : Session ω) :
    ∀ passage ∈ passages equipment cancelAt replies 0 (Step.first session.context) session,
      passage.session.Sends equipment passage.step := by
  have asSent {step : Step} {sent : Session ω} (repeated : Bool) (now : Milliseconds)
      (sends : sent.Sends equipment step) :
      Session.Sends equipment
        { sent with context := sent.context.requestSent repeated now } step := by
    cases repeated with
    | true => exact sends
    | false =>
        refine ⟨?_, sends.isSigned⟩
        have repeats := sends.repeats
        revert repeats
        cases step.request <;> exact id
  refine forall_passages ?_ fun first _ second leads _ => ?_
  · exact asSent _ _ (Session.Sends.ofRequest trivial rfl)
  · obtain ⟨header, response, after, -, -, responded, second_eq⟩ := leads.exists_response
    rw [second_eq]
    exact asSent _ _ (Turn.sends_respond responded)

end Run
end PlugAndCharge
