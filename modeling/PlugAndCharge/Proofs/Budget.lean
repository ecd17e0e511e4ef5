import PlugAndCharge.Proofs.Passage
import PlugAndCharge.Proofs.Repetition

/-!
# The time for a request and its repetitions

A run falls into phases: a new request, and its repetitions while the station is still working on
it.  All repetitions of a phase share one budget, which counts from when the request was sent first,
so a repetition waits no longer than what is left of it.  Only the answer to the first request can
come too late for the budget, when the wait for that alone is set longer.
-/

namespace PlugAndCharge

/-! ## Waits -/

/-- A wait neither ends before it begins nor takes longer than it may. -/
theorem endOfWait_bounds (awaited : Exchange) (start timeout : Milliseconds)
    (cancelAt arrival : Option Milliseconds) :
    start ≤ (endOfWait awaited start timeout cancelAt arrival).1 ∧
      (endOfWait awaited start timeout cancelAt arrival).1 ≤ start + timeout := by
  have uncancelled : start ≤ (endOfWait awaited start timeout none arrival).1 ∧
      (endOfWait awaited start timeout none arrival).1 ≤ start + timeout := by
    cases arrival with
    | none => simp [endOfWait]
    | some delay =>
        by_cases inTime : delay ≤ timeout
        · simp [endOfWait, inTime]
        · simp [endOfWait, inTime]
  cases cancelAt with
  | none => exact uncancelled
  | some cancelled =>
      have cancelled_eq : (endOfWait awaited start timeout (some cancelled) arrival).1 =
          if cancelled < (endOfWait awaited start timeout none arrival).1 ∨ cancelled ≤ start then
            max start cancelled
          else (endOfWait awaited start timeout none arrival).1 :=
        apply_ite Prod.fst _ _ _
      rw [cancelled_eq]
      split
      · constructor <;> lia
      · exact uncancelled

/-- What goes wrong before there is a response does not use up the budget for repetitions. -/
theorem SessionError.failureClass_of_precedesResponse {error : SessionError}
    (precedes : error.precedesResponse = true) : error.failureClass ≠ .ongoingTimeout := by
  revert precedes
  cases error <;> simp [precedesResponse, failureClass]

namespace Passage

variable {ω : Type} {equipment : Equipment ω} {passage first second : Passage ω}
  {issued : Milliseconds}

theorem sentAt_le_endedAt (passage : Passage ω) : passage.sentAt ≤ passage.endedAt :=
  (endOfWait_bounds _ _ _ _ _).1

theorem endedAt_le (passage : Passage ω) :
    passage.endedAt ≤ passage.sentAt + passage.step.timeout :=
  (endOfWait_bounds _ _ _ _ _).2

/-- The longest wait that is set for the request of a passage. -/
def setTimeout (passage : Passage ω) : Milliseconds :=
  passage.session.context.timeouts.forExchange passage.step.exchange

/-- The longest wait over all repetitions of the request of a passage. -/
def budget (passage : Passage ω) : Milliseconds :=
  passage.session.context.timeouts.ongoingBudget

/-- The times of a passage whose request was sent first at `issued`. -/
structure TimedFrom (passage : Passage ω) (issued : Milliseconds) : Prop where
  issuedAt : passage.session.context.issuedAt = some issued
  ongoingSince :
    passage.session.context.ongoingSince = if passage.step.repeated then some issued else none
  issued_le : issued ≤ passage.sentAt
  ofNew : passage.step.repeated = false →
    passage.sentAt = issued ∧ passage.step.timeout = passage.setTimeout
  ofRepeated : passage.step.repeated = true →
    passage.sentAt - issued ≤ passage.budget ∧
      passage.step.timeout =
        min passage.setTimeout (passage.budget - (passage.sentAt - issued))

namespace TimedFrom

/-- What is noted about the beginning of a request is when it was sent first. -/
theorem started (timed : passage.TimedFrom issued) (now : Milliseconds) :
    (passage.session.context.ongoingSince.or passage.session.context.issuedAt).getD now =
      issued := by
  rw [timed.ongoingSince, timed.issuedAt]
  split <;> rfl

/-- The wait after a repetition ends within the budget. -/
theorem endedAt_le_of_repeated (timed : passage.TimedFrom issued)
    (repeated : passage.step.repeated = true) :
    passage.endedAt ≤ issued + passage.budget := by
  obtain ⟨within, timeout_eq⟩ := timed.ofRepeated repeated
  have sent := timed.issued_le
  have ended := passage.endedAt_le
  lia

end TimedFrom

/-- A new request begins to count its time anew. -/
theorem timedFrom_begin {cancelAt : Option Milliseconds} {now : Milliseconds} {step : Step}
    {session : Session ω} {replies : List Reply} (isNew : step.IsNew session.context.timeouts) :
    (begin cancelAt now step session replies).TimedFrom now := by
  have changed : (begin cancelAt now step session replies).session.context =
      { session.context with ongoingSince := none, issuedAt := some now } := by
    simp [begin, Context.requestSent, isNew.notRepeated]
  have notRepeated : (begin cancelAt now step session replies).step.repeated = false :=
    isNew.notRepeated
  constructor
  case issuedAt => rw [changed]
  case ongoingSince =>
    rw [changed, notRepeated]
    rfl
  case issued_le => exact le_refl now
  case ofNew =>
    intro _
    refine ⟨rfl, ?_⟩
    rw [setTimeout, changed]
    exact isNew.timeout_eq
  case ofRepeated =>
    intro repeated
    simp [notRepeated] at repeated

/-- A repetition goes on counting from when its request was sent first. -/
theorem TimedFrom.of_sendAgain {awaited : Exchange} {request : Request} {after : Session ω}
    (timed : first.TimedFrom issued) (same : request.exchange = first.step.exchange)
    (again : Turn.sendAgain first.endedAt awaited request first.session = .ok second.step after)
    (second_eq :
      second = begin first.cancelAt first.endedAt second.step after first.replies.tail) :
    second.step.repeated = true ∧ second.step.exchange = first.step.exchange ∧
      second.TimedFrom issued := by
  rw [Turn.sendAgain_eq_ok] at again
  obtain ⟨timeout, noted, -, step_eq⟩ := again
  rw [Context.noteOngoing_eq_ok] at noted
  simp only [timed.started] at noted
  obtain ⟨within, timeout_eq, changed⟩ := noted
  have repeated : second.step.repeated = true := by rw [step_eq]; rfl
  have request_eq : second.step.request = request := by rw [step_eq]; rfl
  have sentAt_eq : second.sentAt = first.endedAt := by rw [second_eq]; rfl
  have context_eq : second.session.context =
      { first.session.context with ongoingSince := some issued } := by
    rw [second_eq, ← changed]
    simp only [begin, Context.requestSent, repeated, if_true]
  have exchange_eq : second.step.exchange = first.step.exchange :=
    (congrArg Request.exchange request_eq).trans same
  refine ⟨repeated, exchange_eq, ?_⟩
  constructor
  case issuedAt => rw [context_eq, timed.issuedAt]
  case ongoingSince =>
    rw [context_eq, repeated]
    rfl
  case issued_le =>
    rw [sentAt_eq]
    exact timed.issued_le.trans first.sentAt_le_endedAt
  case ofNew =>
    intro notRepeated
    simp [repeated] at notRepeated
  case ofRepeated =>
    intro _
    rw [sentAt_eq, budget, setTimeout, context_eq, exchange_eq, step_eq]
    rw [same] at timeout_eq
    exact ⟨within, timeout_eq⟩

/-- A passage leads to a new request, or to a repetition whose time counts from the same instant. -/
theorem Leads.timedFrom (leads : first.Leads equipment second) (timed : first.TimedFrom issued) :
    (second.step.repeated = false ∧ second.TimedFrom second.sentAt) ∨
      (second.step.repeated = true ∧ second.step.exchange = first.step.exchange ∧
        (first.step.exchange = .authorization ∨
          first.step.exchange = .chargeParameterDiscovery) ∧
        second.TimedFrom issued) := by
  obtain ⟨after, led, second_eq⟩ := leads
  obtain ⟨message, response, -, validated, responded⟩ := result_eq_ok.mp led
  have awaited := (Context.validate_eq_ok.mp validated).2.1
  obtain ⟨ongoing, request, exchange_eq, again⟩ | prompt :=
    @Turn.respond_eq_sendAgain_or_comesTo _ equipment first.endedAt message.header response
      first.session
  · right
    rw [again, Turn.next_eq_ok] at responded
    have same : request.exchange = first.step.exchange := exchange_eq.trans awaited
    obtain ⟨repeated, sameAgain, timedAgain⟩ := timed.of_sendAgain same responded second_eq
    exact ⟨repeated, sameAgain, awaited ▸ Response.exchange_of_isOngoing ongoing, timedAgain⟩
  · left
    rw [responded] at prompt
    have isNew := prompt second.step rfl
    refine ⟨isNew.notRepeated, ?_⟩
    rw [second_eq]
    exact timedFrom_begin isNew

/-- Only the answer to a new request can come too late for the budget, and only if the wait for it
is set longer. -/
theorem TimedFrom.late {error : SessionError} {after : Session ω}
    (timed : passage.TimedFrom issued)
    (failed : passage.result equipment = .error error after)
    (late : error.failureClass = .ongoingTimeout) :
    passage.step.repeated = false ∧
      (passage.step.exchange = .authorization ∨
        passage.step.exchange = .chargeParameterDiscovery) ∧
      passage.budget < passage.endedAt - issued ∧
      error = .ongoingTimeout (.response passage.step.exchange) (passage.endedAt - issued) := by
  obtain precedes | ⟨message, response, validated, responded⟩ := result_eq_error_cases failed
  · exact absurd late (SessionError.failureClass_of_precedesResponse precedes)
  have awaited := (Context.validate_eq_ok.mp validated).2.1
  obtain ⟨ongoing, request, exchange_eq, again⟩ | prompt :=
    @Turn.respond_eq_sendAgain_or_comesTo _ equipment passage.endedAt message.header response
      passage.session
  · rw [again] at responded
    have failedAgain : Turn.sendAgain passage.endedAt request.exchange request passage.session =
        .error error after := by
      revert responded
      simp only [Functor.map, EStateM.map]
      cases Turn.sendAgain passage.endedAt request.exchange request passage.session <;> simp
    rw [Turn.sendAgain_eq_error] at failedAgain
    simp only [timed.started] at failedAgain
    obtain ⟨exceeded, error_eq, -⟩ := failedAgain
    have same : request.exchange = passage.step.exchange := exchange_eq.trans awaited
    refine ⟨?_, awaited ▸ Response.exchange_of_isOngoing ongoing, exceeded, same ▸ error_eq⟩
    cases repeated : passage.step.repeated with
    | false => rfl
    | true =>
        have within := timed.endedAt_le_of_repeated repeated
        have exceeded : passage.budget < passage.endedAt - issued := exceeded
        lia
  · rw [responded] at prompt
    exact absurd late (SessionError.failureClass_of_isPrompt prompt)

/-- The repetitions that follow a passage belong to the same exchange, and their time counts from
the same instant. -/
theorem TimedFrom.of_isChain {again : List (Passage ω)} (timed : first.TimedFrom issued)
    (chain : (first :: again).IsChain (Leads equipment))
    (repeated : ∀ passage ∈ again, passage.step.repeated = true) :
    ∀ passage ∈ again, passage.TimedFrom issued ∧
      passage.step.exchange = first.step.exchange ∧
      (first.step.exchange = .authorization ∨
        first.step.exchange = .chargeParameterDiscovery) := by
  induction again generalizing first with
  | nil =>
      intro passage isPassage
      cases isPassage
  | cons second again ih =>
      obtain ⟨leads, chain⟩ := List.isChain_cons_cons.mp chain
      obtain ⟨notRepeated, -⟩ | ⟨-, same, mayRepeat, timedNext⟩ := leads.timedFrom timed
      · rw [repeated second List.mem_cons_self] at notRepeated
        cases notRepeated
      · have rest := ih timedNext chain fun passage isLater =>
          repeated passage (List.mem_cons_of_mem _ isLater)
        intro passage isPassage
        obtain rfl | isLater := List.mem_cons.mp isPassage
        · exact ⟨timedNext, same, mayRepeat⟩
        · obtain ⟨timedLater, sameLater, -⟩ := rest passage isLater
          exact ⟨timedLater, sameLater.trans same, mayRepeat⟩

end Passage

/-! ## Phases -/

/-- A new request of a run, and its repetitions. -/
structure Phase (ω : Type) where
  first : Passage ω
  again : List (Passage ω)

namespace Phase

variable {ω : Type} {equipment : Equipment ω} {phase : Phase ω}

/-- The passages of a phase. -/
def passages (phase : Phase ω) : List (Passage ω) := phase.first :: phase.again

/-- The phases that passages fall into.  Repetitions in front of every new request belong to none.
-/
def ofPassages : List (Passage ω) → List (Phase ω)
  | [] => []
  | passage :: rest =>
    if passage.step.repeated then ofPassages rest
    else ⟨passage, rest.takeWhile fun next => next.step.repeated⟩ :: ofPassages rest

theorem takeWhile_append_flatMap (passages : List (Passage ω)) :
    (passages.takeWhile fun passage => passage.step.repeated) ++
      (ofPassages passages).flatMap Phase.passages = passages := by
  induction passages with
  | nil => rfl
  | cons passage rest ih =>
      cases repeated : passage.step.repeated with
      | true => simp [ofPassages, repeated, ih]
      | false => simp [ofPassages, repeated, Phase.passages, ih]

/-- A phase takes no longer than its budget allows. -/
structure KeepsBudget (equipment : Equipment ω) (timeouts : Timeouts) (phase : Phase ω) :
    Prop where
  /-- A phase begins with a new request. -/
  isNew : phase.first.step.repeated = false
  /-- What the station has kept the vehicle waiting for before counts no more. -/
  fresh : phase.first.session.context.ongoingSince = none ∧
    phase.first.session.context.issuedAt = some phase.first.sentAt
  timeout_eq : phase.first.step.timeout = timeouts.forExchange phase.first.step.exchange
  repeated : ∀ passage ∈ phase.again, passage.step.repeated = true ∧
    passage.step.exchange = phase.first.step.exchange ∧
    (phase.first.step.exchange = .authorization ∨
      phase.first.step.exchange = .chargeParameterDiscovery)
  /-- Repetitions are sent within the budget, and waited for no longer than that. -/
  sent_within : ∀ passage ∈ phase.again, phase.first.sentAt ≤ passage.sentAt ∧
    passage.sentAt - phase.first.sentAt ≤ timeouts.ongoingBudget ∧
    passage.step.timeout =
      min (timeouts.forExchange phase.first.step.exchange)
        (timeouts.ongoingBudget - (passage.sentAt - phase.first.sentAt))
  ended_within : ∀ passage ∈ phase.again,
    passage.endedAt ≤ phase.first.sentAt + timeouts.ongoingBudget
  ended_by : ∀ passage ∈ phase.passages,
    passage.endedAt ≤ phase.first.sentAt +
      max (timeouts.forExchange phase.first.step.exchange) timeouts.ongoingBudget
  /-- The answer to a repetition is never too late for the budget. -/
  late_again : ∀ passage ∈ phase.again, ∀ error after,
    passage.result equipment = .error error after → error.failureClass ≠ .ongoingTimeout
  /-- The answer to the new request may be, if the wait for it alone is longer. -/
  late_first : ∀ error after, phase.first.result equipment = .error error after →
    error.failureClass = .ongoingTimeout →
    error = .ongoingTimeout (.response phase.first.step.exchange)
        (phase.first.endedAt - phase.first.sentAt) ∧
      timeouts.ongoingBudget < phase.first.endedAt - phase.first.sentAt ∧
      timeouts.ongoingBudget < timeouts.forExchange phase.first.step.exchange

/-- A new request and the repetitions that follow it keep the budget. -/
theorem keepsBudget_of_isChain {timeouts : Timeouts}
    (isNew : phase.first.step.repeated = false)
    (repeated : ∀ passage ∈ phase.again, passage.step.repeated = true)
    (chain : phase.passages.IsChain (Passage.Leads equipment))
    (timed : phase.first.TimedFrom phase.first.sentAt)
    (same : ∀ passage ∈ phase.passages, passage.session.context.timeouts = timeouts) :
    phase.KeepsBudget equipment timeouts := by
  have timedAgain := timed.of_isChain chain repeated
  have budget_eq (passage : Passage ω) (isPassage : passage ∈ phase.passages) :
      passage.budget = timeouts.ongoingBudget := by
    rw [Passage.budget, same passage isPassage]
  have setTimeout_eq (passage : Passage ω) (isPassage : passage ∈ phase.passages) :
      passage.setTimeout = timeouts.forExchange passage.step.exchange := by
    rw [Passage.setTimeout, same passage isPassage]
  have isFirst : phase.first ∈ phase.passages := List.mem_cons_self
  have isPassage (passage : Passage ω) (isAgain : passage ∈ phase.again) :
      passage ∈ phase.passages := List.mem_cons_of_mem _ isAgain
  have timeout_eq : phase.first.step.timeout =
      timeouts.forExchange phase.first.step.exchange :=
    (timed.ofNew isNew).2.trans (setTimeout_eq _ isFirst)
  have firstEnded : phase.first.endedAt ≤ phase.first.sentAt +
      timeouts.forExchange phase.first.step.exchange :=
    timeout_eq ▸ phase.first.endedAt_le
  have againEnded (passage : Passage ω) (isAgain : passage ∈ phase.again) :
      passage.endedAt ≤ phase.first.sentAt + timeouts.ongoingBudget :=
    budget_eq passage (isPassage passage isAgain) ▸
      (timedAgain passage isAgain).1.endedAt_le_of_repeated (repeated passage isAgain)
  constructor
  case isNew => exact isNew
  case fresh =>
    refine ⟨?_, timed.issuedAt⟩
    rw [timed.ongoingSince, isNew]
    rfl
  case timeout_eq => exact timeout_eq
  case repeated =>
    intro passage isAgain
    exact ⟨repeated passage isAgain, (timedAgain passage isAgain).2⟩
  case sent_within =>
    intro passage isAgain
    obtain ⟨timedPassage, exchange_eq, -⟩ := timedAgain passage isAgain
    obtain ⟨within, limited⟩ := timedPassage.ofRepeated (repeated passage isAgain)
    rw [setTimeout_eq _ (isPassage _ isAgain), exchange_eq] at limited
    rw [budget_eq _ (isPassage _ isAgain)] at within limited
    exact ⟨timedPassage.issued_le, within, limited⟩
  case ended_within => exact againEnded
  case ended_by =>
    intro passage member
    obtain rfl | isAgain := List.mem_cons.mp member
    · lia
    · have ended := againEnded passage isAgain
      lia
  case late_again =>
    intro passage isAgain error after failed late
    have notRepeated := ((timedAgain passage isAgain).1.late failed late).1
    rw [repeated passage isAgain] at notRepeated
    cases notRepeated
  case late_first =>
    intro error after failed late
    obtain ⟨-, -, exceeded, error_eq⟩ := timed.late failed late
    rw [budget_eq _ isFirst] at exceeded
    refine ⟨error_eq, exceeded, ?_⟩
    lia

/-- The phases of linked passages keep the budget, if the passages are timed and share their
timeouts. -/
theorem keepsBudget_ofPassages {timeouts : Timeouts} {passages : List (Passage ω)}
    (chain : passages.IsChain (Passage.Leads equipment))
    (timed : ∀ passage ∈ passages, ∃ issued, passage.TimedFrom issued)
    (same : ∀ passage ∈ passages, passage.session.context.timeouts = timeouts) :
    ∀ phase ∈ ofPassages passages, phase.KeepsBudget equipment timeouts := by
  induction passages with
  | nil =>
      intro phase isPhase
      cases isPhase
  | cons passage rest ih =>
      have later := ih chain.tail (fun next isNext => timed next (List.mem_cons_of_mem _ isNext))
        fun next isNext => same next (List.mem_cons_of_mem _ isNext)
      intro phase isPhase
      rw [ofPassages] at isPhase
      split at isPhase
      · exact later phase isPhase
      next isNew =>
        obtain rfl | isLater := List.mem_cons.mp isPhase
        · have within : Phase.passages ⟨passage, rest.takeWhile fun next => next.step.repeated⟩ <+:
              passage :: rest :=
            List.prefix_cons_inj passage |>.mpr (List.takeWhile_prefix _)
          have notRepeated : passage.step.repeated = false := by simpa using isNew
          obtain ⟨issued, timedFirst⟩ := timed passage List.mem_cons_self
          obtain ⟨sentAt_eq, -⟩ := timedFirst.ofNew notRepeated
          have chainWithin := chain.prefix within
          refine keepsBudget_of_isChain notRepeated ?_ chainWithin ?_ ?_
          · intro next isNext
            exact List.all_eq_true.mp List.all_takeWhile next isNext
          · exact sentAt_eq ▸ timedFirst
          · intro next isNext
            exact same next (within.subset isNext)
        · exact later phase isLater

end Phase

namespace Run

variable {ω : Type}

/-- The phases of a run from its first request on. -/
def phases (equipment : Equipment ω) (cancelAt : Option Milliseconds) (replies : List Reply)
    (session : Session ω) : List (Phase ω) :=
  Phase.ofPassages
    (passages equipment cancelAt replies 0 (Step.first session.context) session)

variable (equipment : Equipment ω) (cancelAt : Option Milliseconds) (replies : List Reply)
  (session : Session ω)

/-- Every passage of a run belongs to a phase. -/
theorem flatMap_phases :
    (phases equipment cancelAt replies session).flatMap Phase.passages =
      passages equipment cancelAt replies 0 (Step.first session.context) session := by
  have covered := Phase.takeWhile_append_flatMap
    (passages equipment cancelAt replies 0 (Step.first session.context) session)
  rw [phases]
  cases shape : passages equipment cancelAt replies 0 (Step.first session.context) session with
  | nil => rfl
  | cons first rest =>
      obtain rfl := eq_begin_of_passages_eq equipment cancelAt shape
      rw [shape] at covered
      exact covered

/-- Every passage of a run is timed from some instant. -/
theorem exists_timedFrom :
    ∀ passage ∈ passages equipment cancelAt replies 0 (Step.first session.context) session,
      ∃ issued, passage.TimedFrom issued := by
  refine (isChain_passages equipment cancelAt replies 0 _ session).induction _ _ ?_ fun notNil => ?_
  · intro first second leads ⟨issued, timed⟩
    obtain ⟨-, timedNext⟩ | ⟨-, -, -, timedNext⟩ := leads.timedFrom timed
    · exact ⟨second.sentAt, timedNext⟩
    · exact ⟨issued, timedNext⟩
  · rw [head_passages]
    exact ⟨0, Passage.timedFrom_begin (Step.isNew_ofRequest _ rfl)⟩

theorem keepsBudget_phases :
    ∀ phase ∈ phases equipment cancelAt replies session,
      phase.KeepsBudget equipment session.context.timeouts :=
  Phase.keepsBudget_ofPassages (isChain_passages equipment cancelAt replies 0 _ session)
    (exists_timedFrom equipment cancelAt replies session) fun passage isPassage =>
      congrArg Context.Terms.timeouts
        (terms_passages equipment cancelAt replies 0 _ session passage isPassage)

/-- A run whose first request cannot be sent fails at once.  Any other run falls into phases that
keep their budget, each with one of its own, and fails for want of time only with a phase whose
first request has been answered too late. -/
theorem phases_keep_budget :
    ((∃ fault, replies.head? = some (.unsent fault) ∧
          phases equipment cancelAt replies session = [] ∧
          start equipment cancelAt replies session = fail 0 (.transport fault) session) ∨
        ∃ last ∈ ((phases equipment cancelAt replies session).flatMap Phase.passages).getLast?,
          start equipment cancelAt replies session =
            { last.conclusion equipment with
              sent :=
                ((phases equipment cancelAt replies session).flatMap Phase.passages).map
                  Passage.sending }) ∧
      (∀ phase ∈ phases equipment cancelAt replies session,
        phase.KeepsBudget equipment session.context.timeouts) ∧
      ∀ kind elapsed,
        (start equipment cancelAt replies session).result =
            .error (.ongoingTimeout kind elapsed) →
          ∃ phase ∈ phases equipment cancelAt replies session,
            kind = .response phase.first.step.exchange ∧
              elapsed =
                (start equipment cancelAt replies session).finish - phase.first.sentAt ∧
              session.context.timeouts.ongoingBudget < elapsed := by
  have kept := keepsBudget_phases equipment cancelAt replies session
  obtain ⟨fault, unsent, isNil, run_eq⟩ | ⟨last, isLast, run_eq⟩ :=
    drive_cases equipment cancelAt replies 0 (Step.first session.context) session
  · refine ⟨.inl ⟨fault, unsent, by rw [phases, isNil]; rfl, run_eq⟩, kept,
      fun kind elapsed failed => ?_⟩
    rw [start, run_eq] at failed
    cases failed
  rw [← flatMap_phases] at isLast run_eq
  refine ⟨.inr ⟨last, isLast, run_eq⟩, kept, fun kind elapsed failed => ?_⟩
  rw [start, run_eq] at failed ⊢
  obtain ⟨phase, isPhase, isPassage⟩ := List.mem_flatMap.mp (List.mem_of_getLast? isLast)
  obtain ⟨after, last_failed⟩ | ⟨closed, -⟩ := Passage.result_conclusion_eq_error.mp failed
  swap
  · cases closed
  have finish_eq := Passage.finish_conclusion equipment last
  obtain rfl | isAgain := List.mem_cons.mp isPassage
  · obtain ⟨error_eq, exceeded, -⟩ := (kept phase isPhase).late_first _ after last_failed rfl
    cases error_eq
    exact ⟨phase, isPhase, rfl, congrArg (· - _) finish_eq.symm, exceeded⟩
  · exact absurd rfl ((kept phase isPhase).late_again last isAgain _ after last_failed)

end Run
end PlugAndCharge
