import Mathlib.Data.List.Chain
import PlugAndCharge.Proofs.Frame
import PlugAndCharge.Proofs.Repetition
import PlugAndCharge.Session.Run

/-!
# Passages of a run

A passage is one request of a run with the wait for its response and what follows from that.  A run
is determined by its passages, or fails before the first of them (`Run.drive_cases`).  Each of them
leads to the next one (`Run.isChain_passages`), so a property of runs is a property of lists of
passages.
-/

namespace PlugAndCharge

variable {ω : Type}

/-- A wait that ends without a message fails before there is a response to look at. -/
theorem precedesResponse_of_await {awaited : Exchange} {start timeout : Milliseconds}
    {cancelAt : Option Milliseconds} {reply : Reply} {error : SessionError}
    (failed : (await awaited start timeout cancelAt reply).2 = .error error) :
    error.precedesResponse = true := by
  have ended (error : SessionError)
      (failed : (endOfWait awaited start timeout cancelAt reply.delay?).2 = .error error) :
      error.precedesResponse = true := by
    unfold endOfWait at failed
    grind [SessionError.precedesResponse]
  simp only [await] at failed
  cases waited : (endOfWait awaited start timeout cancelAt reply.delay?).2 with
  | error early =>
      rw [waited] at failed
      cases failed
      exact ended _ waited
  | ok arrived =>
      rw [waited] at failed
      cases received : reply.received with
      | error fault =>
          rw [received] at failed
          cases failed
          rfl
      | ok message =>
          rw [received] at failed
          cases failed

/-- A wait that ends with a message ends with what arrives. -/
theorem received_of_await {awaited : Exchange} {start timeout : Milliseconds}
    {cancelAt : Option Milliseconds} {reply : Reply} {message : Message}
    (arrived : (await awaited start timeout cancelAt reply).2 = .ok message) :
    reply.received = .ok message := by
  simp only [await] at arrived
  cases waited : (endOfWait awaited start timeout cancelAt reply.delay?).2 with
  | error early =>
      rw [waited] at arrived
      cases arrived
  | ok waitedFor =>
      rw [waited] at arrived
      cases received : reply.received with
      | error fault =>
          rw [received] at arrived
          cases arrived
      | ok found =>
          rw [received] at arrived
          cases arrived
          rfl

/-- A request of a run and the wait for its response. -/
structure Passage (ω : Type) where
  step : Step
  sentAt : Milliseconds
  /-- The session while the response is awaited. -/
  session : Session ω
  cancelAt : Option Milliseconds
  /-- What becomes of the request and of those after it. -/
  replies : List Reply

namespace Passage

/-- A passage that begins with sending a request. -/
def begin (cancelAt : Option Milliseconds) (now : Milliseconds) (step : Step)
    (session : Session ω) (replies : List Reply) : Passage ω where
  step := step
  sentAt := now
  session := { session with context := session.context.requestSent step.repeated now }
  cancelAt := cancelAt
  replies := replies

/-- When the wait ends. -/
def endedAt (passage : Passage ω) : Milliseconds :=
  (await passage.step.exchange passage.sentAt passage.step.timeout passage.cancelAt
    (Reply.next passage.replies)).1

/-- What the wait ends with. -/
def received (passage : Passage ω) : Except SessionError Message :=
  (await passage.step.exchange passage.sentAt passage.step.timeout passage.cancelAt
    (Reply.next passage.replies)).2

/-- Why the request after the passage cannot be sent, if it cannot. -/
def nextFault? (passage : Passage ω) : Option TransportError :=
  (Reply.next passage.replies.tail).fault?

/-- The response that is accepted, if one is. -/
def accepted? (passage : Passage ω) : Option Response :=
  match passage.received with
  | .ok message => (passage.session.context.validate passage.step.exchange message).toOption
  | .error _ => none

/-- What follows from the wait. -/
def result (equipment : Equipment ω) (passage : Passage ω) :
    EStateM.Result SessionError (Session ω) Outcome :=
  match passage.received with
  | .ok message =>
    Turn.process equipment passage.endedAt passage.step.exchange message passage.session
  | .error error => .error error passage.session

/-- The end of a run whose last passage this is.  If there is more to send, it cannot be sent. -/
def conclusion (equipment : Equipment ω) (passage : Passage ω) : Run ω :=
  match passage.result equipment with
  | .error error session => Run.fail passage.endedAt error session
  | .ok (.terminated reason) session => Run.succeed passage.endedAt reason session
  | .ok (.next _) session =>
    Run.fail passage.endedAt (.transport (passage.nextFault?.getD .closed)) session

/-- The second passage begins with the request that follows from the first. -/
def Leads (equipment : Equipment ω) (first second : Passage ω) : Prop :=
  ∃ after, first.result equipment = .ok (.next second.step) after ∧
    second = begin first.cancelAt first.endedAt second.step after first.replies.tail

/-- The instant and the message that a run records for a passage. -/
def sending (passage : Passage ω) : Milliseconds × Message :=
  (passage.sentAt, passage.step.message)

variable {equipment : Equipment ω} {passage first second : Passage ω} {after : Session ω}

theorem accepted?_eq_some {response : Response} :
    passage.accepted? = some response ↔
      ∃ message, passage.received = .ok message ∧
        passage.session.context.validate passage.step.exchange message = .ok response := by
  unfold accepted?
  cases passage.received with
  | error error => simp
  | ok message =>
      cases validated : passage.session.context.validate passage.step.exchange message <;>
        simp [validated, Except.toOption]

theorem nextFault?_of_head? {fault : TransportError}
    (unsent : passage.replies.tail.head? = some (.unsent fault)) :
    passage.nextFault? = some fault := by
  rw [nextFault?, Reply.next, List.headD_eq_head?_getD, unsent]
  rfl

/-- Something follows from a passage only if its response is accepted. -/
theorem result_eq_ok {outcome : Outcome} :
    passage.result equipment = .ok outcome after ↔
      ∃ message response, passage.received = .ok message ∧
        passage.session.context.validate passage.step.exchange message = .ok response ∧
        Turn.respond equipment passage.endedAt message.header response passage.session =
          .ok outcome after := by
  unfold result
  cases passage.received with
  | error error => simp
  | ok message => simp [Turn.process_eq_ok]

/-- Nothing follows from a passage if the station has no replies left. -/
theorem result_begin_nil_ne {cancelAt : Option Milliseconds} {now : Milliseconds} {step : Step}
    {session : Session ω} {outcome : Outcome} :
    (begin cancelAt now step session []).result equipment ≠ .ok outcome after := by
  intro led
  obtain ⟨message, -, received, -⟩ := result_eq_ok.mp led
  cases received_of_await received

/-- What follows from a passage is a request whose own response is awaited. -/
theorem awaitsAnswer_of_result {next : Step}
    (led : passage.result equipment = .ok (.next next) after) : next.AwaitsAnswer := by
  obtain ⟨message, response, -, -, responded⟩ := result_eq_ok.mp led
  exact Turn.awaitsAnswer_of_respond responded

/-- A response is accepted only for the request that it answers. -/
theorem exchange_of_accepted {response : Response} (accepted : passage.accepted? = some response) :
    response.exchange = passage.step.exchange := by
  obtain ⟨message, -, validated⟩ := accepted?_eq_some.mp accepted
  exact (Context.validate_eq_ok.mp validated).2.1

/-- In a passage either no response is accepted, and the session fails as it is, or the vehicle
responds to the one that is. -/
theorem result_cases (passage : Passage ω) :
    (passage.accepted? = none ∧
      ∃ error, ∀ equipment, passage.result equipment = .error error passage.session) ∨
    ∃ header response, passage.accepted? = some response ∧
      response.exchange = passage.step.exchange ∧
      ∀ equipment, passage.result equipment =
        Turn.respond equipment passage.endedAt header response passage.session := by
  cases received : passage.received with
  | error error => exact .inl ⟨by simp [accepted?, received], error, by simp [result, received]⟩
  | ok message =>
      cases validated : passage.session.context.validate passage.step.exchange message with
      | error error =>
          refine .inl ⟨by simp [accepted?, received, validated, Except.toOption], error, ?_⟩
          intro equipment
          simp only [result, received, Turn.process, bind, EStateM.bind, Turn.consult, validated]
      | ok response =>
          refine .inr ⟨message.header, response, ?_, (Context.validate_eq_ok.mp validated).2.1, ?_⟩
          · exact accepted?_eq_some.mpr ⟨message, received, validated⟩
          · intro equipment
            simp only [result, received, Turn.process, bind, EStateM.bind, Turn.consult, validated]

/-- What follows from a response that is accepted is what the session responds with. -/
theorem exists_result_eq_of_accepted {response : Response}
    (accepted : passage.accepted? = some response) :
    ∃ header, ∀ equipment : Equipment ω, passage.result equipment =
      Turn.respond equipment passage.endedAt header response passage.session := by
  obtain ⟨notAccepted, -⟩ | ⟨header, taken, isTaken, -, result_eq⟩ := passage.result_cases
  · cases notAccepted.symm.trans accepted
  · obtain rfl := Option.some.inj (accepted.symm.trans isTaken)
    exact ⟨header, result_eq⟩

/-- A session ends as planned with the response to the request for that. -/
theorem sessionStop_of_terminated {reason : StopReason}
    (ended : passage.result equipment = .ok (.terminated reason) after) :
    passage.step.exchange = .sessionStop ∧ Turn.sessionStop passage.session = .ok reason after := by
  obtain ⟨message, response, -, validated, responded⟩ := result_eq_ok.mp ended
  obtain ⟨-, awaited, -⟩ := Context.validate_eq_ok.mp validated
  obtain ⟨isStop, stopped⟩ := Turn.respond_eq_terminated.mp responded
  exact ⟨awaited.symm.trans isStop, stopped⟩

/-- A passage fails before there is a response to look at, or as the response is taken. -/
theorem result_eq_error_cases {error : SessionError}
    (failed : passage.result equipment = .error error after) :
    error.precedesResponse = true ∨
      ∃ message response,
        passage.session.context.validate passage.step.exchange message = .ok response ∧
          Turn.respond equipment passage.endedAt message.header response passage.session =
            .error error after := by
  unfold result at failed
  cases received : passage.received with
  | error early =>
      rw [received] at failed
      cases failed
      exact .inl (precedesResponse_of_await received)
  | ok message =>
      rw [received] at failed
      simp only [Turn.process, bind, EStateM.bind, Turn.consult] at failed
      cases validated : passage.session.context.validate passage.step.exchange message with
      | error refused =>
          rw [validated] at failed
          cases failed
          exact .inl (Context.precedesResponse_of_validate validated)
      | ok response =>
          rw [validated] at failed
          exact .inr ⟨message, response, validated, failed⟩

/-! ### The end of a run -/

theorem finish_conclusion (equipment : Equipment ω) (passage : Passage ω) :
    (passage.conclusion equipment).finish = passage.endedAt := by
  unfold conclusion
  split <;> rfl

theorem conclusion_of_next {next : Step}
    (led : passage.result equipment = .ok (.next next) after) :
    passage.conclusion equipment =
      Run.fail passage.endedAt (.transport (passage.nextFault?.getD .closed)) after := by
  rw [conclusion, led]

/-- A run succeeds if the response of its last passage ends the session. -/
theorem result_conclusion_eq_ok {reason : StopReason} :
    (passage.conclusion equipment).result = .ok reason ↔
      ∃ after, passage.result equipment = .ok (.terminated reason) after := by
  unfold conclusion
  rcases passage.result equipment with ⟨next | ended, after⟩ | ⟨error, after⟩
  · simp [Run.fail]
  · simp [Run.succeed]
  · simp [Run.fail]

/-- A run fails as its last passage does, or because no more can be sent. -/
theorem result_conclusion_eq_error {error : SessionError} :
    (passage.conclusion equipment).result = .error error ↔
      (∃ after, passage.result equipment = .error error after) ∨
      (error = .transport (passage.nextFault?.getD .closed) ∧
        ∃ next after, passage.result equipment = .ok (.next next) after) := by
  unfold conclusion
  rcases passage.result equipment with ⟨next | ended, after⟩ | ⟨error, after⟩
  · simp [Run.fail, eq_comm]
  · simp [Run.succeed]
  · simp [Run.fail]

/-- Sending a request changes nothing of what a session is begun with. -/
theorem terms_begin (cancelAt : Option Milliseconds) (now : Milliseconds) (step : Step)
    (session : Session ω) (replies : List Reply) :
    (begin cancelAt now step session replies).session.context.terms = session.context.terms :=
  Context.view_requestSent Context.terms (fun _ _ _ => rfl) session.context step.repeated now

theorem terms_result (equipment : Equipment ω) (passage : Passage ω) :
    (Turn.sessionOf (passage.result equipment)).context.terms =
      passage.session.context.terms := by
  unfold result
  cases passage.received with
  | error error => rfl
  | ok message => exact Turn.Keeps.process passage.step.exchange message passage.session

theorem Leads.terms_eq (leads : first.Leads equipment second) :
    second.session.context.terms = first.session.context.terms := by
  obtain ⟨after, led, second_eq⟩ := leads
  rw [second_eq, terms_begin]
  have kept := terms_result equipment first
  rwa [led] at kept

end Passage

namespace Run

open Passage

variable (equipment : Equipment ω) (cancelAt : Option Milliseconds)

/-- The passages of a run that begins with sending a request. -/
def passages : List Reply → Milliseconds → Step → Session ω → List (Passage ω)
  | [], now, step, session => [begin cancelAt now step session []]
  | reply :: replies, now, step, session =>
    match reply.fault? with
    | some _ => []
    | none =>
      let passage := begin cancelAt now step session (reply :: replies)
      passage ::
        match passage.result equipment with
        | .ok (.next next) after => passages replies passage.endedAt next after
        | _ => []

/-- A run has no passages just if its first request cannot be sent. -/
theorem passages_eq_nil_iff {replies : List Reply} {now : Milliseconds} {step : Step}
    {session : Session ω} :
    passages equipment cancelAt replies now step session = [] ↔
      ∃ fault, replies.head? = some (.unsent fault) := by
  cases replies with
  | nil => simp [passages]
  | cons reply replies => cases reply <;> simp [passages, Reply.fault?]

/-- If there is a passage at all, the first one begins with the first request. -/
theorem eq_begin_of_passages_eq {replies : List Reply} {now : Milliseconds} {step : Step}
    {session : Session ω} {first : Passage ω} {rest : List (Passage ω)}
    (shape : passages equipment cancelAt replies now step session = first :: rest) :
    first = begin cancelAt now step session replies := by
  cases replies with
  | nil => exact (List.cons.inj shape).1.symm
  | cons reply replies =>
      rw [passages] at shape
      split at shape
      · cases shape
      · exact (List.cons.inj shape).1.symm

theorem head_passages {replies : List Reply} {now : Milliseconds} {step : Step}
    {session : Session ω} (notNil : passages equipment cancelAt replies now step session ≠ []) :
    (passages equipment cancelAt replies now step session).head notNil =
      begin cancelAt now step session replies :=
  eq_begin_of_passages_eq equipment cancelAt (List.cons_head_tail notNil).symm

/-- If a request follows from a passage, then the passages after it are those of the run that begins
with this request. -/
theorem eq_passages_of_result {replies : List Reply} {now : Milliseconds} {step next : Step}
    {session after : Session ω} {front back : List (Passage ω)} {passage : Passage ω}
    (shape : passages equipment cancelAt replies now step session = front ++ passage :: back)
    (led : passage.result equipment = .ok (.next next) after) :
    back = passages equipment cancelAt passage.replies.tail passage.endedAt next after := by
  induction replies generalizing now step session front with
  | nil =>
      have isPassage : passage ∈ passages equipment cancelAt [] now step session := by simp [shape]
      obtain rfl := List.mem_singleton.mp isPassage
      exact absurd led result_begin_nil_ne
  | cons reply replies ih =>
      rw [passages] at shape
      split at shape
      · simp at shape
      cases front with
      | nil =>
          obtain ⟨rfl, rest⟩ := List.cons.inj shape
          rw [led] at rest
          exact rest.symm
      | cons first front =>
          obtain ⟨-, rest⟩ := List.cons.inj shape
          split at rest
          next => exact ih rest
          next => simp at rest

/-- Each passage of a run leads to the next one. -/
theorem isChain_passages (replies : List Reply) (now : Milliseconds) (step : Step)
    (session : Session ω) :
    (passages equipment cancelAt replies now step session).IsChain (Leads equipment) := by
  induction replies generalizing now step session with
  | nil => exact List.isChain_singleton _
  | cons reply replies ih =>
      rw [passages]
      split
      · exact List.isChain_nil
      dsimp only
      split
      next next after led =>
        refine List.isChain_cons.mpr ⟨fun second isSecond => ?_, ih _ next after⟩
        obtain ⟨rest, shape⟩ := List.head?_eq_some_iff.mp isSecond
        obtain rfl := eq_begin_of_passages_eq equipment cancelAt shape
        exact ⟨after, led, rfl⟩
      next => exact List.isChain_singleton _

/-- In every passage a session has what it was begun with. -/
theorem terms_passages (replies : List Reply) (now : Milliseconds) (step : Step)
    (session : Session ω) :
    ∀ passage ∈ passages equipment cancelAt replies now step session,
      passage.session.context.terms = session.context.terms := by
  refine (isChain_passages equipment cancelAt replies now step session).induction _ _
    (fun first second leads kept => leads.terms_eq.trans kept) fun notNil => ?_
  rw [head_passages]
  exact terms_begin _ _ _ _ _

private theorem after_conclusion (passage : Passage ω) :
    after passage.sentAt passage.step.message (passage.conclusion equipment) =
      { passage.conclusion equipment with sent := [passage.sending] } := by
  unfold conclusion
  split <;> rfl

private theorem drive_nil (now : Milliseconds) (step : Step) (session : Session ω)
    [step.AwaitsAnswer] :
    drive equipment cancelAt [] now step session =
      let passage := begin cancelAt now step session []
      after now step.message (passage.conclusion equipment) := by
  simp only [drive, conclusion, Passage.result, received, endedAt, begin,
    Step.AwaitsAnswer.awaited_eq]
  rcases await step.exchange now step.timeout cancelAt (Reply.next []) with
    ⟨instant, error | message⟩
  · rfl
  · rfl

private theorem drive_cons (reply : Reply) (replies : List Reply) (now : Milliseconds)
    (step : Step) (session : Session ω) [step.AwaitsAnswer] :
    drive equipment cancelAt (reply :: replies) now step session =
      match reply.fault? with
      | some fault => fail now (.transport fault) session
      | none =>
        let passage := begin cancelAt now step session (reply :: replies)
        after now step.message
          (match passage.result equipment with
          | .ok (.next next) after => drive equipment cancelAt replies passage.endedAt next after
          | _ => passage.conclusion equipment) := by
  rw [drive]
  simp only [conclusion, Passage.result, received, endedAt, begin, Reply.next, List.headD_cons,
    Step.AwaitsAnswer.awaited_eq]
  cases reply.fault? with
  | some fault => rfl
  | none =>
      rcases await step.exchange now step.timeout cancelAt reply with ⟨instant, error | message⟩
      · rfl
      · dsimp only
        rcases Turn.process equipment instant step.exchange message _ with ⟨_ | _, _⟩ | _ <;> rfl

/-- A run whose first request cannot be sent fails at once. -/
theorem drive_of_unsent {replies : List Reply} {now : Milliseconds} {step : Step}
    {session : Session ω} {fault : TransportError}
    (unsent : replies.head? = some (.unsent fault)) :
    drive equipment cancelAt replies now step session = fail now (.transport fault) session := by
  cases replies with
  | nil => cases unsent
  | cons reply replies =>
      cases unsent
      rfl

/-- A run fails before its first passage, or it consists of its passages and ends as the last of
them does. -/
theorem drive_cases (replies : List Reply) (now : Milliseconds) (step : Step)
    (session : Session ω) [step.AwaitsAnswer] :
    (∃ fault, replies.head? = some (.unsent fault) ∧
      passages equipment cancelAt replies now step session = [] ∧
      drive equipment cancelAt replies now step session =
        fail now (.transport fault) session) ∨
    ∃ last ∈ (passages equipment cancelAt replies now step session).getLast?,
      drive equipment cancelAt replies now step session =
        { last.conclusion equipment with
          sent :=
            (passages equipment cancelAt replies now step session).map sending } := by
  induction replies generalizing now step session with
  | nil =>
      refine .inr ⟨_, rfl, (drive_nil equipment cancelAt now step session).trans ?_⟩
      exact after_conclusion equipment (begin cancelAt now step session [])
  | cons reply replies ih =>
      simp only [drive_cons, passages]
      cases unsent : reply.fault? with
      | some fault =>
          cases reply with
          | unsent _ =>
              cases unsent
              exact .inl ⟨fault, rfl, rfl, rfl⟩
          | _ => cases unsent
      | none =>
          have conclude :=
            after_conclusion equipment (begin cancelAt now step session (reply :: replies))
          right
          rcases led : (begin cancelAt now step session (reply :: replies)).result equipment with
            ⟨next | reason, between⟩ | ⟨error, between⟩
          · have := awaitsAnswer_of_result led
            obtain ⟨fault, isUnsent, isLast, run_eq⟩ | ⟨last, isLast, run_eq⟩ :=
              ih (begin cancelAt now step session (reply :: replies)).endedAt next between
            · have nextUnsent : (begin cancelAt now step session (reply :: replies)).nextFault? =
                  some fault := nextFault?_of_head? isUnsent
              have ends := conclusion_of_next led
              rw [nextUnsent, Option.getD_some, ← run_eq] at ends
              refine ⟨begin cancelAt now step session (reply :: replies), by simp [isLast], ?_⟩
              simp only [isLast, List.map_singleton, ← ends]
              exact conclude
            · refine ⟨last, List.mem_getLast?_cons isLast, ?_⟩
              simp only [run_eq]
              rfl
          · exact ⟨_, rfl, conclude⟩
          · exact ⟨_, rfl, conclude⟩

/-- A run ends as the last of its passages does. -/
theorem drive_eq_getLast (replies : List Reply) (now : Milliseconds) (step : Step)
    (session : Session ω)
    (notNil : passages equipment cancelAt replies now step session ≠ [])
    [step.AwaitsAnswer] :
    drive equipment cancelAt replies now step session =
      { ((passages equipment cancelAt replies now step session).getLast notNil).conclusion
          equipment with
        sent := (passages equipment cancelAt replies now step session).map sending } := by
  obtain ⟨-, -, isNil, -⟩ | ⟨last, isLast, run_eq⟩ :=
    drive_cases equipment cancelAt replies now step session
  · exact absurd isNil notNil
  · obtain rfl : (passages equipment cancelAt replies now step session).getLast notNil = last := by
      simpa [List.getLast?_eq_some_getLast notNil] using isLast
    exact run_eq

/-- A run that succeeds ends as its last passage does. -/
theorem exists_last_of_result {replies : List Reply} {now : Milliseconds} {step : Step}
    {session : Session ω} {reason : StopReason} [step.AwaitsAnswer]
    (succeeded : (drive equipment cancelAt replies now step session).result = .ok reason) :
    ∃ last ∈ (passages equipment cancelAt replies now step session).getLast?,
      last.result equipment = .ok (.terminated reason)
        (drive equipment cancelAt replies now step session).session := by
  obtain ⟨fault, -, -, run_eq⟩ | ⟨last, isLast, run_eq⟩ :=
    drive_cases equipment cancelAt replies now step session
  · rw [run_eq] at succeeded
    cases succeeded
  · rw [run_eq] at succeeded
    obtain ⟨after, ended⟩ := result_conclusion_eq_ok.mp succeeded
    refine ⟨last, isLast, ?_⟩
    rw [run_eq, conclusion, ended]
    rfl

/-- What a run sends are the requests of its passages. -/
theorem sent_drive (replies : List Reply) (now : Milliseconds) (step : Step)
    (session : Session ω) [step.AwaitsAnswer] :
    (drive equipment cancelAt replies now step session).sent =
      (passages equipment cancelAt replies now step session).map sending := by
  obtain ⟨fault, -, isNil, run_eq⟩ | ⟨last, -, run_eq⟩ :=
    drive_cases equipment cancelAt replies now step session
  · rw [run_eq, isNil]
    rfl
  · rw [run_eq]

end Run
end PlugAndCharge
