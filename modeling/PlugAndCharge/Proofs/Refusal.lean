import PlugAndCharge.Proofs.Repetition

/-!
# Responses that are refused

A message is refused if it is not the awaited response, if it belongs to another session or if it
reports a failure, in this order.  A refusal comes before anything else that a response leads to, so
it leaves everything as it was; and nothing that comes after it fails in the same words.
-/

namespace PlugAndCharge

/-- A message is refused with a failure while the response of an exchange is awaited.  What is not
that response is refused for its kind alone, and what is not the session's for its identifier. -/
inductive Context.Refuses (context : Context) (awaited : Exchange) (message : Message) :
    SessionError → Prop
  | unexpected (other : message.kind ≠ .response awaited) :
    Refuses context awaited message (.unexpectedMessage (.response awaited) message.kind)
  | foreign {sessionId : SessionId} (isAwaited : message.kind = .response awaited)
    (assigned : context.sessionId = some sessionId)
    (differs : message.header.sessionId ≠ sessionId) :
    Refuses context awaited message (.sessionIdMismatch sessionId message.header.sessionId)
  | failed {code : ResponseCode} (isAwaited : message.kind = .response awaited)
    (own : ∀ sessionId ∈ context.sessionId, message.header.sessionId = sessionId)
    (reports : message.body.code? = some code) (isFailure : code.isFailure = true) :
    Refuses context awaited message (.rejected (.response awaited) code)

/-- A failure for what a message is, not for what follows from it. -/
def SessionError.isRefusal : SessionError → Bool
  | .unexpectedMessage _ _ | .sessionIdMismatch _ _ | .rejected _ _ => true
  | _ => false

theorem SessionError.isRefusal_of_isPrompt {error : SessionError} (prompt : error.isPrompt = true) :
    error.isRefusal = false := by
  revert prompt
  cases error <;> simp [isPrompt, isRefusal]

/-- A message of the kind of a response is one of the responses of that exchange. -/
theorem Message.kind_eq_response {message : Message} {exchange : Exchange} :
    message.kind = .response exchange ↔
      ∃ response, message.body = .response response ∧ response.exchange = exchange := by
  obtain ⟨header, request | response⟩ := message <;> simp [kind, Body.kind]

namespace Context

variable {context : Context} {awaited : Exchange} {message : Message} {error : SessionError}

theorem Refuses.isRefusal (refuses : context.Refuses awaited message error) :
    error.isRefusal = true := by
  cases refuses <;> rfl

private theorem Refuses.validate (refuses : context.Refuses awaited message error) :
    context.validate awaited message = .error error := by
  unfold Context.validate
  cases refuses with
  | unexpected other =>
      cases body : message.body with
      | request request => rfl
      | response response =>
          have differs : response.exchange ≠ awaited := fun same =>
            other (Message.kind_eq_response.mpr ⟨response, body, same⟩)
          simp [differs]
  | foreign isAwaited assigned differs =>
      obtain ⟨response, body, same⟩ := Message.kind_eq_response.mp isAwaited
      simp [body, same, assigned, headerId, differs]
  | failed isAwaited own reports isFailure =>
      obtain ⟨response, body, same⟩ := Message.kind_eq_response.mp isAwaited
      rw [body, Body.code?, Option.some.injEq] at reports
      have notForeign :
          (context.sessionId.any fun sessionId => message.header.sessionId != sessionId) =
            false := by
        cases assigned : context.sessionId with
        | none => rfl
        | some sessionId => simp [own sessionId assigned]
      simp [body, same, notForeign, reports, isFailure]

/-- A message is refused if there is any reason for it. -/
theorem exists_refuses_iff :
    (∃ error, context.Refuses awaited message error) ↔
      message.kind ≠ .response awaited ∨
        (∃ sessionId ∈ context.sessionId, message.header.sessionId ≠ sessionId) ∨
        ∃ code, message.body.code? = some code ∧ code.isFailure = true := by
  constructor
  · rintro ⟨_, other | ⟨-, assigned, differs⟩ | ⟨-, -, reports, isFailure⟩⟩
    · exact .inl other
    · exact .inr (.inl ⟨_, assigned, differs⟩)
    · exact .inr (.inr ⟨_, reports, isFailure⟩)
  · intro reason
    by_cases isAwaited : message.kind = .response awaited
    · by_cases foreign : ∃ sessionId ∈ context.sessionId, message.header.sessionId ≠ sessionId
      · obtain ⟨sessionId, assigned, differs⟩ := foreign
        exact ⟨_, .foreign isAwaited assigned differs⟩
      · obtain other | differs | ⟨code, reports, isFailure⟩ := reason
        · exact absurd isAwaited other
        · exact absurd differs foreign
        · push Not at foreign
          exact ⟨_, .failed isAwaited foreign reports isFailure⟩
    · exact ⟨_, .unexpected isAwaited⟩

/-- Whatever is not accepted is refused for what it is. -/
theorem validate_eq_error :
    context.validate awaited message = .error error ↔ context.Refuses awaited message error := by
  refine ⟨fun refused => ?_, Refuses.validate⟩
  have refusable : ∃ error, context.Refuses awaited message error := by
    by_contra notRefused
    rw [exists_refuses_iff] at notRefused
    push Not at notRefused
    obtain ⟨isAwaited, own, notFailure⟩ := notRefused
    obtain ⟨response, body, same⟩ := Message.kind_eq_response.mp isAwaited
    have accepted := validate_eq_ok.mpr
      ⟨body, same, own, by simpa using notFailure response.code (by rw [body]; rfl)⟩
    cases accepted.symm.trans refused
  obtain ⟨other, refuses⟩ := refusable
  obtain rfl : error = other := by simpa [refused] using refuses.validate
  exact refuses

end Context

namespace Turn

variable {ω : Type} {equipment : Equipment ω} {now : Milliseconds} {header : Header}
  {response : Response} {session after : Session ω} {error : SessionError}

/-- A response that has been accepted is not refused any more. -/
theorem isRefusal_of_respond
    (failed : respond equipment now header response session = .error error after) :
    error.isRefusal = false := by
  -- What is sent again can only fail for the budget, and nothing else fails for what a message is.
  obtain ⟨-, request, -, again⟩ | prompt :=
    @respond_eq_sendAgain_or_comesTo _ equipment now header response session
  · rw [again, map_eq_error, sendAgain_eq_error] at failed
    obtain ⟨-, rfl, -⟩ := failed
    rfl
  · rw [failed] at prompt
    exact SessionError.isRefusal_of_isPrompt prompt

/-- A message is refused while a response is awaited if it is of another kind, belongs to another
session or reports a failure.  The session then fails for the first of these reasons, with
everything as it was before, and in no other case does it fail for any of them. -/
theorem refused_without_effect (equipment : Equipment ω) (now : Milliseconds) (awaited : Exchange)
    (message : Message) (session : Session ω) :
    ((∃ error, session.context.Refuses awaited message error) ↔
      message.kind ≠ .response awaited ∨
        (∃ sessionId ∈ session.context.sessionId, message.header.sessionId ≠ sessionId) ∨
        ∃ code, message.body.code? = some code ∧ code.isFailure = true) ∧
    ∀ error after,
      process equipment now awaited message session = .error error after ∧
          error.isRefusal = true ↔
        session.context.Refuses awaited message error ∧ after = session := by
  refine ⟨Context.exists_refuses_iff, fun error after => ⟨?_, ?_⟩⟩
  · rintro ⟨failed, isRefusal⟩
    rw [process, bind_eq_error] at failed
    obtain refused | ⟨response, between, -, failed⟩ := failed
    · obtain ⟨refused, rfl⟩ := consult_eq_error.mp refused
      exact ⟨Context.validate_eq_error.mp refused, rfl⟩
    · rw [isRefusal_of_respond failed] at isRefusal
      cases isRefusal
  · rintro ⟨refuses, rfl⟩
    refine ⟨?_, refuses.isRefusal⟩
    rw [process, bind_eq_error]
    exact .inl (consult_eq_error.mpr ⟨Context.validate_eq_error.mpr refuses, rfl⟩)

end Turn
end PlugAndCharge
