import PlugAndCharge.Proofs.Succession

/-!
# The identifier of a session

The station gives the session its identifier once, with the response to the setup.  From then on
every request bears it, and a response under another identifier is refused before anything in it is
looked at.
-/

namespace PlugAndCharge

variable {ω : Type}

/-! ## Refusals -/

namespace Context

variable {context : Context} {awaited : Exchange} {message : Message} {sessionId : SessionId}

/-- The awaited response under another identifier is refused for that. -/
theorem validate_foreign {response : Response} (named : context.sessionId = some sessionId)
    (body_eq : message.body = .response response) (isAwaited : response.exchange = awaited)
    (foreign : message.header.sessionId ≠ sessionId) :
    context.validate awaited message =
      .error (.sessionIdMismatch sessionId message.header.sessionId) := by
  simp [validate, body_eq, isAwaited, named, foreign, headerId]

/-- Once there is an identifier, only what bears it is accepted. -/
theorem exists_validate_eq_error (named : context.sessionId = some sessionId)
    (foreign : message.header.sessionId ≠ sessionId) :
    ∃ error, context.validate awaited message = .error error := by
  cases validated : context.validate awaited message with
  | error error => exact ⟨error, rfl⟩
  | ok response =>
      obtain ⟨-, -, own, -⟩ := validate_eq_ok.mp validated
      exact absurd (own sessionId named) foreign

end Context

namespace Passage

variable {passage : Passage ω} {error : SessionError}

/-- A passage fails with the session as it was, whatever the vehicle and its keys are like: nothing
has been changed, and nobody has been asked. -/
def IsRefused (passage : Passage ω) (error : SessionError) : Prop :=
  ∀ equipment : Equipment ω, passage.result equipment = .error error passage.session

theorem isRefused_of_validate {message : Message} (received : passage.received = .ok message)
    (refused : passage.session.context.validate passage.step.exchange message = .error error) :
    passage.IsRefused error := by
  intro equipment
  simp only [result, received, Turn.process, bind, EStateM.bind, Turn.consult, refused]

end Passage

/-! ## Runs -/

/-- A passage of a run under an identifier: the request bears it, and so does every answer that is
not refused.  The awaited response under another identifier is refused, and the run ends. -/
structure Passage.IsUnder (run : Run ω) (sessionId : SessionId) (passage : Passage ω)
    (later : List (Passage ω)) : Prop where
  header : passage.step.message.header.sessionId = sessionId
  receipt : ∀ content, passage.step.request = .meteringReceipt content →
    content.sessionId = sessionId
  answer : ∀ answer, passage.received = .ok answer → (∀ error, ¬passage.IsRefused error) →
    answer.header.sessionId = sessionId
  foreign : ∀ answer response, passage.received = .ok answer → answer.body = .response response →
    response.exchange = passage.step.exchange → answer.header.sessionId ≠ sessionId →
      let mismatch := SessionError.sessionIdMismatch sessionId answer.header.sessionId
      passage.IsRefused mismatch ∧ later = [] ∧ run.result = .error mismatch

namespace Run

open Passage

variable (equipment : Equipment ω) (cancelAt : Option Milliseconds) (replies : List Reply)
  (session : Session ω)

/-- A run ends with a passage that is refused. -/
theorem eq_nil_of_isRefused {now : Milliseconds} {step : Step} {front back : List (Passage ω)}
    {passage : Passage ω} {error : SessionError}
    (shape : passages equipment cancelAt replies now step session = front ++ passage :: back)
    (isRefused : passage.IsRefused error)
    [step.AwaitsAnswer] :
    back = [] ∧ (drive equipment cancelAt replies now step session).result = .error error := by
  obtain ⟨isLast, run_eq⟩ :=
    eq_nil_of_result_eq_error equipment cancelAt replies session shape (isRefused equipment)
  refine ⟨isLast, ?_⟩
  rw [run_eq]
  rfl

/-- After the setup, the session has the identifier that the answer to it bears. -/
theorem sessionId_later {setup : Passage ω} {answer : Message} {later : List (Passage ω)}
    (shape : passages equipment cancelAt replies 0 (Step.first session.context) session =
      setup :: later)
    (received : setup.received = .ok answer) :
    ∀ passage ∈ later, passage.session.context.sessionId = some answer.header.sessionId := by
  have chain :=
    isChain_passages equipment cancelAt replies 0 (Step.first session.context) session
  rw [shape] at chain
  obtain ⟨leads, chain⟩ := List.isChain_cons.mp chain
  have isSetup : setup.step.exchange = .sessionSetup := by
    rw [eq_begin_of_passages_eq equipment cancelAt shape]
    rfl
  refine chain.induction _ _ (fun first second leads named => ?_) fun notNil => ?_
  · exact leads.lasts.sessionId _ named
  · exact (leads _ (List.head_mem_head? notNil)).sessionId_eq isSetup received

/-- What has been given an identifier keeps to it. -/
theorem isUnder_of_sessionId_eq {now : Milliseconds} {step : Step} {sessionId : SessionId}
    {front back : List (Passage ω)} {passage : Passage ω}
    {exchanges : List Exchange}
    (shape : passages equipment cancelAt replies now step session = front ++ passage :: back)
    (follows : passage.step.Follows exchanges passage.session.context)
    (named : passage.session.context.sessionId = some sessionId)
    [step.AwaitsAnswer] :
    passage.IsUnder (drive equipment cancelAt replies now step session) sessionId back := by
  have headerId_eq : passage.session.context.headerId = sessionId := by
    rw [Context.headerId, named, Option.getD_some]
  refine ⟨follows.header.trans headerId_eq, ?_, ?_, ?_⟩
  · intro content isReceipt
    exact (follows.receipt content isReceipt).trans headerId_eq
  · intro answer received notRefused
    by_contra foreign
    obtain ⟨error, refused⟩ := Context.exists_validate_eq_error named foreign
    exact notRefused error (isRefused_of_validate received refused)
  · intro answer response received body_eq isAwaited foreign
    have refused := Context.validate_foreign named body_eq isAwaited foreign
    have isRefused := isRefused_of_validate received refused
    exact ⟨isRefused,
      eq_nil_of_isRefused equipment cancelAt replies session shape isRefused⟩

/-- The first request of a run is the setup, under eight zeros, unless it cannot be sent and the run
fails without any.  Without an accepted response to the setup there is no other request.  From then
on everything is under the identifier in the header of this response: the requests and receipts, and
the answers that have any effect. -/
theorem session_under_identifier (evccId : Octets) (isTls : Bool) (timeouts : Timeouts)
    (peer : Option String) (resume : Option Choices) (onboard : ω) :
    let session : Session ω :=
      { context := Context.start evccId isTls timeouts peer resume, onboard }
    let run := start equipment cancelAt replies session
    (∃ fault, replies.head? = some (.unsent fault) ∧ run = fail 0 (.transport fault) session) ∨
    ∃ setup later,
      passages equipment cancelAt replies 0 (Step.first session.context) session =
        setup :: later ∧
      run.sent = (setup :: later).map Passage.sending ∧
      setup.step.request = .sessionSetup { evccId } ∧
      setup.step.message.header.sessionId = List.replicate 8 0 ∧
      (later ≠ [] → ∃ content, setup.accepted? = some (.sessionSetup content)) ∧
      ∀ answer content, setup.received = .ok answer →
        setup.accepted? = some (.sessionSetup content) →
        ∀ front passage back, later = front ++ passage :: back →
          passage.IsUnder run answer.header.sessionId back := by
  intro session run
  rcases shape : passages equipment cancelAt replies 0 (Step.first session.context) session with
    _ | ⟨setup, later⟩
  · obtain ⟨fault, unsent⟩ := (passages_eq_nil_iff equipment cancelAt).mp shape
    exact .inl ⟨fault, unsent, drive_of_unsent equipment cancelAt unsent⟩
  have chain :=
    isChain_passages equipment cancelAt replies 0 (Step.first session.context) session
  obtain rfl := eq_begin_of_passages_eq equipment cancelAt shape
  refine .inr ⟨_, later, rfl, ?_, rfl, rfl, fun goesOn => ?_, ?_⟩
  · rw [← shape]
    exact sent_drive equipment cancelAt replies _ _ session
  · rw [shape] at chain
    have leads := (List.isChain_cons.mp chain).1 _ (List.head_mem_head? goesOn)
    obtain ⟨header, response, after, accepted, isAwaited, -⟩ := leads.exists_response
    cases response with
    | sessionSetup content => exact ⟨content, accepted⟩
    | _ => cases isAwaited
  · intro answer content received accepted front passage back split
    have isLater : passage ∈ later := split ▸ List.mem_append_cons_self
    have isPassage : passage ∈
        passages equipment cancelAt replies 0 (Step.first session.context) session :=
      shape ▸ List.mem_cons_of_mem _ isLater
    obtain ⟨exchanges, follows⟩ :=
      exists_follows_passages equipment cancelAt replies session passage isPassage
    have named := sessionId_later equipment cancelAt replies session shape received passage isLater
    rw [split, ← List.cons_append] at shape
    exact isUnder_of_sessionId_eq equipment cancelAt replies session shape follows named

end Run
end PlugAndCharge
