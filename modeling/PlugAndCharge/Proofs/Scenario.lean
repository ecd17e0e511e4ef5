import PlugAndCharge.Proofs.Fit
import PlugAndCharge.Proofs.Passage
import PlugAndCharge.Session.Simulation

/-!
# Scenarios

A session of the simulated vehicle together with everything that it depends on: its settings, its
certificates and keys, and what the station does.  In every passage of it the context fits the
request, and in the end it is settled as it was in each of its passages.
-/

namespace PlugAndCharge

/-! ## Passages that fit -/

namespace Passage

variable {ω : Type} {equipment : Equipment ω} {first second passage : Passage ω}

/-- What the request of a passage does. -/
def move (passage : Passage ω) : Move := passage.step.request.move

/-- The context of a passage fits its request. -/
def Fits (passage : Passage ω) : Prop := passage.session.context.Fits passage.move

/-- A passage leads from one that fits to one that fits, and to a successor of its move. -/
theorem Leads.fits (leads : first.Leads equipment second)
    (starts : equipment.vehicle.OnlyStarts) (fits : first.Fits) :
    second.Fits ∧ second.move ∈ first.move.successors second.session.context.isAc := by
  obtain ⟨after, led, second_eq⟩ := leads
  obtain ⟨message, response, -, validated, responded⟩ := result_eq_ok.mp led
  have awaited : response.exchange = first.move.exchange :=
    (Context.validate_eq_ok.mp validated).2.1.trans (Request.exchange_move _).symm
  obtain ⟨fitsNext, follows⟩ := Context.Fits.respond starts fits awaited responded
  have kept : (after.context.requestSent second.step.repeated first.endedAt).isAc =
      after.context.isAc :=
    Context.view_requestSent Context.isAc (fun _ _ _ => rfl) _ _ _
  rw [second_eq]
  exact ⟨fitsNext.requestSent _ _, kept ▸ follows⟩

theorem Leads.mem_predecessors (leads : first.Leads equipment second)
    (starts : equipment.vehicle.OnlyStarts) (fits : first.Fits) :
    first.move ∈ second.move.predecessors :=
  Move.mem_predecessors (leads.fits starts fits).2

/-- Once it is settled, a session stays settled through a passage, even if that fails. -/
theorem settlement_result (settled : passage.move.isSettled = true) :
    (Turn.sessionOf (passage.result equipment)).context.settlement =
      passage.session.context.settlement := by
  unfold result
  cases passage.received with
  | error error => rfl
  | ok message =>
      refine Turn.settlement_process (fun offer => ?_) message passage.session
      have discover : passage.move.exchange = .serviceDiscovery :=
        (Request.exchange_move _).trans offer
      obtain ⟨_, move_eq⟩ := passage.move.exists_eq_ofExchange
      rw [move_eq, discover] at settled
      cases settled

/-- Sending a request leaves a session settled as it is. -/
theorem settlement_begin (cancelAt : Option Milliseconds) (now : Milliseconds) (step : Step)
    (session : Session ω) (replies : List Reply) :
    (begin cancelAt now step session replies).session.context.settlement =
      session.context.settlement :=
  Context.view_requestSent Context.settlement (fun _ _ _ => rfl) session.context step.repeated now

/-- The end of a run is settled as its last passage has left it. -/
theorem settlement_conclusion (passage : Passage ω) :
    (passage.conclusion equipment).session.context.settlement =
      (Turn.sessionOf (passage.result equipment)).context.settlement := by
  unfold conclusion
  rcases passage.result equipment with ⟨next | reason, after⟩ | ⟨error, after⟩ <;> rfl

theorem Fits.isSettled_iff (fits : passage.Fits) :
    passage.move.isSettled = true ↔ passage.session.context.energyMode.isSome = true := by
  rw [fits.modeSettled]

/-- Once it is settled, a session is settled in the next passage as it was. -/
theorem Leads.settlement_eq (leads : first.Leads equipment second)
    (settled : first.move.isSettled = true) :
    second.session.context.settlement = first.session.context.settlement := by
  obtain ⟨after, led, second_eq⟩ := leads
  have kept : (Turn.sessionOf (first.result equipment)).context.settlement = _ :=
    settlement_result settled
  rw [led] at kept
  rw [second_eq, settlement_begin]
  exact kept

end Passage

/-- If what follows upon a settled passage is settled, then in every passage from the settlement on
a session is settled as it is in the end. -/
theorem Run.settlement_drive {ω : Type} {equipment : Equipment ω} {cancelAt : Option Milliseconds}
    {replies : List Reply} {now : Milliseconds} {step : Step} {session : Session ω}
    (stays : ∀ first ∈ passages equipment cancelAt replies now step session,
      ∀ second ∈ passages equipment cancelAt replies now step session,
        first.Leads equipment second → first.move.isSettled = true →
          second.move.isSettled = true)
    [step.AwaitsAnswer] :
    ∀ passage ∈ passages equipment cancelAt replies now step session,
      passage.move.isSettled = true →
        passage.session.context.settlement =
          (drive equipment cancelAt replies now step session).session.context.settlement := by
  have chain := (isChain_passages equipment cancelAt replies now step session).imp_of_mem_imp
    fun first second isFirst isSecond leads =>
      And.intro leads (stays first isFirst second isSecond leads)
  refine chain.backwards_induction _ _ ?_ fun notNil settled => ?_
  · intro first second ⟨leads, stillSettled⟩ asInTheEnd settled
    exact (leads.settlement_eq settled).symm.trans (asInTheEnd (stillSettled settled))
  · rw [drive_eq_getLast equipment cancelAt replies now step session notNil,
      ← Passage.settlement_result settled]
    exact (Passage.settlement_conclusion _).symm

/-! ## Scenarios -/

/-- A session of the simulated vehicle with everything that it depends on. -/
structure Scenario where
  suite : Suite
  credentials : Credentials Onboard
  onboard : Onboard
  evccId : Octets
  isTls : Bool
  timeouts : Timeouts
  peer : Option String
  resume : Option Choices
  cancelAt : Option Milliseconds
  replies : List Reply

namespace Scenario

/-- What takes part on the vehicle's side. -/
def equipment (scenario : Scenario) : Equipment Onboard where
  vehicle := Onboard.vehicle scenario.suite
  credentials := scenario.credentials

/-- The session before its first request. -/
def session (scenario : Scenario) : Session Onboard where
  context :=
    Context.start scenario.evccId scenario.isTls scenario.timeouts scenario.peer scenario.resume
  onboard := scenario.onboard

/-- The whole session. -/
def run (scenario : Scenario) : Run Onboard :=
  Run.start scenario.equipment scenario.cancelAt scenario.replies scenario.session

/-- The requests of the session with what follows from each. -/
def passages (scenario : Scenario) : List (Passage Onboard) :=
  Run.passages scenario.equipment scenario.cancelAt scenario.replies 0
    (Step.first scenario.session.context) scenario.session

end Scenario

/-- Every simulation plays a scenario. -/
theorem Configuration.exists_scenario {configuration : Configuration} {suite : Suite}
    {persists : Bool} {directory : Directory} {isTls : Bool} {peer : String}
    {cancelAt : Option Milliseconds} {replies : List Reply} {run : Run Onboard}
    (simulated : configuration.simulate suite persists directory isTls peer cancelAt replies =
      .ok run) :
    ∃ scenario : Scenario, scenario.run = run := by
  simp only [simulate, Run.ofConfiguration] at simulated
  cases identified : configuration.evccIdOctets with
  | error error =>
      rw [identified] at simulated
      cases simulated
  | ok evccId =>
      rw [identified] at simulated
      cases simulated
      exact ⟨{
        suite, evccId, isTls, cancelAt, replies
        credentials := Directory.credentials suite Onboard.directory
        onboard := configuration.onboard persists directory
        timeouts := configuration.timeouts
        peer := some peer
        resume := configuration.resume }, rfl⟩

namespace Scenario

/-- The simulated vehicle takes the first schedule on offer and switches the power on. -/
theorem onlyStarts (scenario : Scenario) : scenario.equipment.vehicle.OnlyStarts := by
  intro schedules state selection selected
  cases schedules with
  | nil => cases selected
  | cons schedule schedules =>
      cases selected
      rfl

theorem run_cases (scenario : Scenario) :
    (∃ fault, scenario.replies.head? = some (.unsent fault) ∧ scenario.passages = [] ∧
      scenario.run = Run.fail 0 (.transport fault) scenario.session) ∨
    ∃ last ∈ scenario.passages.getLast?,
      scenario.run =
        { last.conclusion scenario.equipment with
          sent := scenario.passages.map Passage.sending } :=
  Run.drive_cases _ _ _ _ _ _

/-- A run that succeeds ends as its last passage does. -/
theorem exists_last_of_result {scenario : Scenario} {reason : StopReason}
    (succeeded : scenario.run.result = .ok reason) :
    ∃ last ∈ scenario.passages.getLast?,
      last.result scenario.equipment = .ok (.terminated reason) scenario.run.session :=
  Run.exists_last_of_result _ _ succeeded

theorem isChain (scenario : Scenario) :
    scenario.passages.IsChain (Passage.Leads scenario.equipment) :=
  Run.isChain_passages _ _ _ _ _ _

theorem eq_begin_of_passages_eq {scenario : Scenario} {first : Passage Onboard}
    {rest : List (Passage Onboard)} (shape : scenario.passages = first :: rest) :
    first = Passage.begin scenario.cancelAt 0 (Step.first scenario.session.context)
      scenario.session scenario.replies :=
  Run.eq_begin_of_passages_eq _ _ shape

theorem sent_run (scenario : Scenario) :
    scenario.run.sent = scenario.passages.map Passage.sending :=
  Run.sent_drive _ _ _ _ _ _

theorem isTls_eq (scenario : Scenario) :
    ∀ passage ∈ scenario.passages, passage.session.context.isTls = scenario.isTls :=
  fun passage isPassage =>
    congrArg Context.Terms.isTls (Run.terms_passages _ _ _ _ _ _ passage isPassage)

/-- In every passage of a scenario the context fits the request. -/
theorem fits (scenario : Scenario) : ∀ passage ∈ scenario.passages, passage.Fits := by
  refine scenario.isChain.induction _ _ (fun first second leads fits => ?_) fun notNil => ?_
  · exact (leads.fits scenario.onlyStarts fits).1
  · rw [eq_begin_of_passages_eq (List.cons_head_tail notNil).symm]
    exact (Context.Fits.start scenario.evccId scenario.isTls scenario.timeouts scenario.peer
      scenario.resume).requestSent false 0

/-- In every passage from the settlement on, a scenario is settled as it is in the end. -/
theorem settlement_eq (scenario : Scenario) :
    ∀ passage ∈ scenario.passages, passage.move.isSettled = true →
      passage.session.context.settlement = scenario.run.session.context.settlement := by
  refine Run.settlement_drive fun first isFirst second isSecond leads settled => ?_
  have kept := leads.settlement_eq settled
  have sameMode := congrArg (fun settlement => settlement.2.2.isSome) kept
  exact (scenario.fits second isSecond).isSettled_iff.mpr
    (sameMode.trans ((scenario.fits first isFirst).isSettled_iff.mp settled))

end Scenario
end PlugAndCharge
