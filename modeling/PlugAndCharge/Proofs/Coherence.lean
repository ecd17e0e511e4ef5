import PlugAndCharge.Proofs.Succession

/-!
# How steps fit together

What is sent, what is awaited and for how long is decided in many places, for each response anew.
Wherever it is decided, the three fit together, and they fit the session and the response.
-/

namespace PlugAndCharge

/-- A step sends a request once more since a message, which answers it, says that the station is
still working on it.  The wait is bounded twice. -/
structure Step.Repeats (step : Step) (context : Context) (awaited : Exchange)
    (message : Message) : Prop where
  repeated : step.repeated = true
  mayRepeat : awaited = .authorization ∨ awaited = .chargeParameterDiscovery
  awaited_eq : step.awaited = awaited
  ongoing : ∃ response, context.validate awaited message = .ok response ∧
    response.isOngoing = true
  within : step.timeout ≤ context.timeouts.forKind step.message.kind
  withinBudget : step.timeout ≤ context.timeouts.ongoingBudget

namespace Turn

variable {ω : Type} {now : Milliseconds} {awaited : Exchange} {session after : Session ω}
  {next : Step}

/-- A message changes none of the times that are set. -/
theorem timeouts_of_process {equipment : Equipment ω} {message : Message} {outcome : Outcome}
    (came : process equipment now awaited message session = .ok outcome after) :
    after.context.timeouts = session.context.timeouts :=
  congrArg Context.Terms.timeouts ((Keeps.process awaited message).of_eq_ok came)

/-- A request that is sent again is waited for no longer than is set for it, and no longer than is
left of the budget. -/
theorem timeout_of_sendAgain {request : Request}
    (again : sendAgain now awaited request session = .ok next after) :
    next.awaited = awaited ∧ next.repeated = true ∧
      next.timeout ≤ session.context.timeouts.forKind next.message.kind ∧
      next.timeout ≤ session.context.timeouts.ongoingBudget := by
  obtain ⟨timeout, noted, -, rfl⟩ := sendAgain_eq_ok.mp again
  obtain ⟨-, timeout_eq, -⟩ := Context.noteOngoing_eq_ok.mp noted
  refine ⟨rfl, rfl, ?_, ?_⟩
  · exact timeout_eq.trans_le (Nat.min_le_left _ _)
  · exact (timeout_eq.trans_le (Nat.min_le_right _ _)).trans (Nat.sub_le _ _)

/-- Whatever the session, the vehicle and the message are like, a message leads to a request under
the session's identifier whose own response is awaited.  It is a new one, which is waited for as
long as is set for it, or the one that the message answers once more. -/
theorem next_step_coherent (equipment : Equipment ω) (message : Message)
    (came : process equipment now awaited message session = .ok (.next next) after) :
    next.message.kind = .request next.awaited ∧
      next.message.header.sessionId = after.context.headerId ∧
      ((next.repeated = false ∧
          next.timeout = session.context.timeouts.forKind next.message.kind) ∨
        next.Repeats session.context awaited message) := by
  obtain ⟨response, validated, responded⟩ := process_eq_ok.mp came
  have answers := awaitsAnswer_of_respond responded
  refine ⟨congrArg Kind.request answers.awaited_eq.symm, (follows_respond responded).header, ?_⟩
  obtain ⟨ongoing, request, exchange_eq, again⟩ | prompt :=
    @respond_eq_sendAgain_or_comesTo _ equipment now message.header response session
  · have isAwaited := (Context.validate_eq_ok.mp validated).2.1
    rw [again, next_eq_ok] at responded
    obtain ⟨awaited_eq, repeated, within, withinBudget⟩ := timeout_of_sendAgain responded
    exact .inr {
      repeated, within, withinBudget
      mayRepeat := isAwaited ▸ Response.exchange_of_isOngoing ongoing
      awaited_eq := awaited_eq.trans (exchange_eq.trans isAwaited)
      ongoing := ⟨response, validated, ongoing⟩ }
  · rw [responded] at prompt
    have isNew := prompt next rfl
    refine .inl ⟨isNew.notRepeated, ?_⟩
    rw [← timeouts_of_process came]
    exact isNew.timeout_eq

/-- A session that waits for leave to charge. -/
def waiting : Session Onboard where
  context :=
    { Context.start [] true Timeouts.standard none none with
      sessionId := some (List.replicate 8 1)
      issuedAt := some 0 }
  onboard :=
    { simulator := Simulator.start VehicleSettings.standard false
      directory := Directory.empty "" }

/-- The station is still working on the request for leave. -/
def stillWorking : Message where
  header := { sessionId := List.replicate 8 1, signature := none }
  body := .response (.authorization { responseCode := .ok, processing := .ongoing })

/-- The request for leave is sent again, and waited for as long as before. -/
theorem stillWorking_repeats :
    ∃ next after,
      process (Onboard.equipment Suite.standard) 1000 .authorization stillWorking waiting =
          .ok (.next next) after ∧
        next.message.kind = .request .authorization ∧ next.timeout = 2000 ∧
        next.Repeats waiting.context .authorization stillWorking := by
  have came : process (Onboard.equipment Suite.standard) 1000 .authorization stillWorking waiting =
      .ok
        (.next <|
          (Step.ofRequest waiting.context .authorization
            (.authorization { id := none, genChallenge := none })).asRepetition 2000)
        { waiting with context := { waiting.context with ongoingSince := some 0 } } := rfl
  refine ⟨_, _, came, rfl, rfl, ?_⟩
  obtain ⟨-, -, isNew | repeats⟩ := next_step_coherent _ _ came
  · cases isNew.1
  · exact repeats

end Turn
end PlugAndCharge
