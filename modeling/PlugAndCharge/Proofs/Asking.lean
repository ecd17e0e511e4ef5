import PlugAndCharge.Proofs.Onboard
import PlugAndCharge.Proofs.Part

/-!
# Asking the vehicle

The vehicle is asked whether it goes on charging once for each report of a round with which the
station asks for nothing and no receipt is due.  The simulated vehicle is asked as often as it goes
on and at most once more.  While receipts are due it is not asked, however long that lasts.
-/

namespace PlugAndCharge

variable {ω : Type}

/-- A vehicle that counts how often it is asked whether it goes on charging. -/
def Vehicle.counting (vehicle : Vehicle ω) : Vehicle (ω × Nat) where
  energyMode state := vehicle.energyMode state.1
  certInstallNeeded state := vehicle.certInstallNeeded state.1
  chargeParameters state := vehicle.chargeParameters state.1
  chooseSchedule schedules state :=
    let (selection, own) := vehicle.chooseSchedule schedules state.1
    (selection, own, state.2)
  continueCharging state :=
    let (goesOn, own) := vehicle.continueCharging state.1
    (goesOn, own, state.2 + 1)
  wantsPause state := vehicle.wantsPause state.1
  storeContract chain key state :=
    let (stored, own) := vehicle.storeContract chain key state.1
    (stored, own, state.2)
  currentDemand state :=
    let (demand, own) := vehicle.currentDemand state.1
    (demand, own, state.2)

/-- Certificates and keys of a part of what is on board. -/
def Credentials.comap {ω' : Type} (credentials : Credentials ω) (part : ω' → ω) :
    Credentials ω' where
  certificate state := credentials.certificate (part state)
  chain state := credentials.chain (part state)
  rootIds state := credentials.rootIds (part state)
  commonName state := credentials.commonName (part state)
  sign state := credentials.sign (part state)
  verify state := credentials.verify (part state)
  decryptKey state := credentials.decryptKey (part state)

/-- The same with a vehicle that counts. -/
def Equipment.counting (equipment : Equipment ω) : Equipment (ω × Nat) where
  vehicle := equipment.vehicle.counting
  credentials := equipment.credentials.comap Prod.fst

/-- A vehicle that counts does the same as it does without counting. -/
theorem Equipment.counting_refines (equipment : Equipment ω) :
    equipment.counting.Refines Prod.fst equipment where
  vehicle :=
    { energyMode := fun _ => rfl
      certInstallNeeded := fun _ => rfl
      chargeParameters := fun _ => rfl
      wantsPause := fun _ => rfl
      chooseSchedule := fun _ _ => rfl
      continueCharging := fun _ => rfl
      storeContract := fun _ _ _ => rfl
      currentDemand := fun _ => rfl }
  credentials :=
    { certificate := fun _ _ => rfl
      chain := fun _ _ _ => rfl
      rootIds := fun _ => rfl
      commonName := fun _ _ => rfl
      sign := fun _ _ _ => rfl
      verify := fun _ _ _ _ _ _ => rfl
      decryptKey := fun _ _ _ _ => rfl }

namespace Passage

variable {equipment : Equipment ω} {passage first last : Passage (ω × Nat)}
  {passages : List (Passage (ω × Nat))}

/-- In a passage the vehicle is asked once or not at all. -/
theorem count_result (equipment : Equipment ω) (passage : Passage (ω × Nat)) :
    (Turn.sessionOf (passage.result equipment.counting)).onboard.2 =
      passage.session.onboard.2 + passage.asksVehicle.toNat := by
  refine onboard_result (fun state : ω × Nat =>
    state.2 = passage.session.onboard.2 + passage.asksVehicle.toNat) ?_ ?_ ?_
  · exact ⟨fun _ _ counted => counted, fun _ counted => counted⟩
  · exact fun _ _ _ _ counted => counted
  · cases passage.asksVehicle <;> rfl

/-- In passages that follow each other the vehicle is asked as often as there are passages in which
it is. -/
theorem count_result_getLast (chain : passages.IsChain (Leads equipment.counting))
    (isFirst : first ∈ passages.head?) (isLast : last ∈ passages.getLast?) :
    (Turn.sessionOf (last.result equipment.counting)).onboard.2 =
      first.session.onboard.2 + passages.countP asksVehicle := by
  induction passages generalizing first with
  | nil => cases isFirst
  | cons passage rest ih =>
      obtain rfl : passage = first := Option.some.inj isFirst
      have here := count_result equipment passage
      have counted : (if passage.asksVehicle = true then 1 else 0) = passage.asksVehicle.toNat := by
        cases passage.asksVehicle <;> rfl
      rw [List.countP_cons, counted]
      cases rest with
      | nil =>
          obtain rfl : passage = last := Option.some.inj isLast
          simpa using here
      | cons next rest =>
          obtain ⟨leads, chain⟩ := List.isChain_cons_cons.mp chain
          have later := ih chain rfl (by simpa using isLast)
          rw [leads.onboard_eq, here] at later
          omega

end Passage

namespace Scenario

/-- The session of a scenario with a vehicle that has not been asked yet. -/
def uncounted (scenario : Scenario) : Session (Onboard × Nat) where
  context := scenario.session.context
  onboard := (scenario.onboard, 0)

/-- The requests of a scenario with a vehicle that counts. -/
def countedPassages (scenario : Scenario) : List (Passage (Onboard × Nat)) :=
  Run.passages scenario.equipment.counting scenario.cancelAt scenario.replies 0
    (Step.first scenario.session.context) scenario.uncounted

/-- The run of a scenario with a vehicle that counts. -/
def countedRun (scenario : Scenario) : Run (Onboard × Nat) :=
  Run.start scenario.equipment.counting scenario.cancelAt scenario.replies scenario.uncounted

/-- How often the vehicle is asked in a scenario whether it goes on charging. -/
def timesAsked (scenario : Scenario) : Nat :=
  scenario.countedRun.session.onboard.2

/-- How many rounds of charging the vehicle is set to. -/
def loops (scenario : Scenario) : Nat :=
  scenario.onboard.simulator.settings.chargeLoops.toNat

theorem isChain_countedPassages (scenario : Scenario) :
    scenario.countedPassages.IsChain (Passage.Leads scenario.equipment.counting) :=
  Run.isChain_passages _ _ _ _ _ _

theorem onboard_countedRun_cases (scenario : Scenario) :
    (scenario.countedPassages = [] ∧
      scenario.countedRun.session.onboard = scenario.uncounted.onboard) ∨
    ∃ last ∈ scenario.countedPassages.getLast?,
      scenario.countedRun.session.onboard =
        (Turn.sessionOf (last.result scenario.equipment.counting)).onboard :=
  Run.onboard_drive_cases _ _ _ _ _ _

/-- The passages are those of the scenario, with a count. -/
theorem map_restrict_countedPassages (scenario : Scenario) :
    scenario.countedPassages.map (Passage.restrict Prod.fst) = scenario.passages :=
  Run.passages_restrict scenario.equipment.counting_refines _ _ _ _ _

/-- The run is that of the scenario, with a count. -/
theorem restrict_countedRun (scenario : Scenario) :
    scenario.countedRun.restrict Prod.fst = scenario.run :=
  Run.drive_restrict scenario.equipment.counting_refines _ _ _ _ _

theorem timesAsked_eq_countP (scenario : Scenario) :
    scenario.timesAsked = scenario.passages.countP Passage.asksVehicle := by
  rw [timesAsked, ← scenario.map_restrict_countedPassages, List.countP_map]
  obtain ⟨isNil, onboard_eq⟩ | ⟨last, isLast, onboard_eq⟩ := scenario.onboard_countedRun_cases
  · rw [onboard_eq, isNil]
    rfl
  · obtain ⟨first, rest, shape⟩ :=
      List.exists_cons_of_ne_nil (List.ne_nil_of_mem (List.mem_of_getLast? isLast))
    have isFirst : first ∈ scenario.countedPassages.head? := by
      rw [shape]
      rfl
    have counted := Passage.count_result_getLast scenario.isChain_countedPassages isFirst isLast
    rw [onboard_eq, counted, Run.eq_begin_of_passages_eq _ _ shape]
    exact Nat.zero_add _

/-! ## Rounds of charging -/

/-- The vehicle has been asked as often as it has gone on, and once more if the session is about to
end; it has gone on as often as it is set to at most. -/
structure WithinLoops (scenario : Scenario) (ending : Bool) (state : Onboard × Nat) : Prop where
  settings : state.1.simulator.settings = scenario.onboard.simulator.settings
  asked : state.2 + scenario.onboard.simulator.loopsDone ≤
    state.1.simulator.loopsDone + ending.toNat
  loops : state.1.simulator.loopsDone ≤ max scenario.loops scenario.onboard.simulator.loopsDone

namespace WithinLoops

variable {scenario : Scenario} {ending : Bool} {state : Onboard × Nat}

theorem mono {endingLater : Bool} (within : scenario.WithinLoops ending state)
    (later : ending = true → endingLater = true) : scenario.WithinLoops endingLater state := by
  refine { within with asked := within.asked.trans ?_ }
  have := Bool.toNat_le_toNat later
  omega

private theorem continueCharging_eq (scenario : Scenario) (state : Onboard × Nat) :
    scenario.equipment.counting.vehicle.continueCharging state =
      (state.1.simulator.continueCharging.1,
        { state.1 with simulator := state.1.simulator.continueCharging.2 }, state.2 + 1) := rfl

/-- A vehicle that is asked goes on with another round or is about to end the session. -/
theorem continueCharging (within : scenario.WithinLoops false state) :
    scenario.WithinLoops (!(scenario.equipment.counting.vehicle.continueCharging state).1)
      (scenario.equipment.counting.vehicle.continueCharging state).2 := by
  obtain ⟨settings, asked, loops⟩ := within
  replace asked : state.2 + scenario.onboard.simulator.loopsDone ≤ state.1.simulator.loopsDone :=
    asked
  rw [continueCharging_eq, Simulator.continueCharging]
  cases done : state.1.simulator.isDone with
  | true =>
      refine ⟨settings, ?_, loops⟩
      show state.2 + 1 + _ ≤ state.1.simulator.loopsDone + 1
      omega
  | false =>
      have notDone : state.1.simulator.loopsDone < scenario.loops := by
        rw [Simulator.isDone, settings] at done
        exact Nat.lt_of_not_le (of_decide_eq_false done)
      refine ⟨settings, ?_, ?_⟩
      · show state.2 + 1 + _ ≤ state.1.simulator.loopsDone + 1
        omega
      · show state.1.simulator.loopsDone + 1 ≤ _
        omega

end WithinLoops
end Scenario

/-! ### Rounds that the vehicle declines -/

namespace Turn

variable {equipment : Equipment ω} {session after : Session ω} {next : Step} {now : Milliseconds}
  {header : Header} {response : Response}

private theorem move_of_afterRound_declined {report : RoundReport} {another : Turn ω Step}
    (asks : report.asksVehicle session.context.isTls = true)
    (declines : (equipment.vehicle.continueCharging session.onboard).1 = false)
    (responded : afterRound equipment report another session = .ok next after) :
    next.request.move = .power .stop := by
  obtain ⟨notDue, quiet⟩ : report.receiptDue session.context.isTls = false ∧
      report.notification = .none := by
    simpa [RoundReport.asksVehicle] using asks
  obtain ⟨required, isTls, -⟩ | ⟨-, responded⟩ := afterRound_eq_ok.mp responded
  · simp [RoundReport.receiptDue, required, isTls] at notDue
  · rw [quiet, heed] at responded
    obtain ⟨goesOn, -⟩ | ⟨-, responded⟩ := continueOrStop_eq_ok.mp responded
    · rw [declines] at goesOn
      cases goesOn
    · exact move_of_stopCharging responded

/-- A vehicle that is asked and does not go on switches the power off. -/
theorem move_of_declined (asks : response.asksVehicle session.context.isTls = true)
    (declines : (equipment.vehicle.continueCharging session.onboard).1 = false)
    (responded : respond equipment now header response session = .ok (.next next) after) :
    next.request.move = .power .stop := by
  cases response with
  | chargingStatus content =>
      exact move_of_afterRound_declined asks declines (next_eq_ok.mp responded)
  | currentDemand content =>
      exact move_of_afterRound_declined asks declines (next_eq_ok.mp responded)
  | _ => cases asks

end Turn

namespace Passage

variable {equipment : Equipment ω} {first second passage : Passage ω}

/-- The vehicle is asked in a round of charging only. -/
theorem isEnding_of_asksVehicle (asks : passage.asksVehicle = true) :
    passage.move.isEnding = false := by
  obtain ⟨notAccepted, -⟩ | ⟨header, response, accepted, awaited, -⟩ := passage.result_cases
  · rw [asksVehicle, notAccepted] at asks
    cases asks
  · rw [asksVehicle, accepted, Option.any_some] at asks
    obtain ⟨progress, move_eq⟩ := passage.move.exists_eq_ofExchange
    rw [move, Request.exchange_move, show passage.step.request.exchange = response.exchange from
      awaited.symm] at move_eq
    rw [move, move_eq]
    cases response with
    | chargingStatus content => rfl
    | currentDemand content => rfl
    | _ => cases asks

/-- Whether a session is about to end after a passage: the passage belongs to the end, or the
vehicle is asked and does not go on. -/
def endsSession (equipment : Equipment ω) (passage : Passage ω) : Bool :=
  passage.move.isEnding || passage.asksVehicle &&
    !(equipment.vehicle.continueCharging passage.session.onboard).1

/-- What follows belongs to the end if the session is about to end. -/
theorem Leads.isEnding (leads : first.Leads equipment second)
    (starts : equipment.vehicle.OnlyStarts) (fits : first.Fits)
    (ends : first.endsSession equipment = true) : second.move.isEnding = true := by
  have follows := (leads.fits starts fits).2
  obtain ending | ⟨asks, declines⟩ : first.move.isEnding = true ∨
      first.asksVehicle = true ∧
        (equipment.vehicle.continueCharging first.session.onboard).1 = false := by
    simpa [endsSession] using ends
  · exact Move.isEnding_of_mem_successors ending follows
  · obtain ⟨header, response, after, accepted, -, responded, -⟩ := leads.exists_response
    rw [asksVehicle, accepted, Option.any_some] at asks
    have stops : second.move = .power .stop := Turn.move_of_declined asks declines responded
    rw [stops]
    rfl

end Passage

namespace Scenario

variable (scenario : Scenario)

theorem onlyStarts_counting : scenario.equipment.counting.vehicle.OnlyStarts :=
  fun schedules state => scenario.onlyStarts schedules state.1

theorem fits_countedPassages : ∀ passage ∈ scenario.countedPassages, passage.Fits := by
  intro passage isPassage
  have isRestricted := List.mem_map_of_mem (f := Passage.restrict Prod.fst) isPassage
  rw [scenario.map_restrict_countedPassages] at isRestricted
  exact scenario.fits _ isRestricted

theorem withinLoops_result {passage : Passage (Onboard × Nat)}
    (within : scenario.WithinLoops passage.move.isEnding passage.session.onboard) :
    scenario.WithinLoops (passage.endsSession scenario.equipment.counting)
      (Turn.sessionOf (passage.result scenario.equipment.counting)).onboard := by
  refine Passage.onboard_result _ ?_ ?_ ?_
  · exact ⟨fun _ _ within => within, fun _ within => within⟩
  · intro _ chain key state within
    obtain ⟨contract, directory, stored_eq⟩ :=
      state.1.exists_storeContract_eq scenario.suite chain key
    have kept : scenario.equipment.counting.vehicle.storeContract chain key state =
        ((Onboard.storeContract scenario.suite chain key state.1).1,
          { simulator := { state.1.simulator with contract }, directory }, state.2) := by
      rw [← stored_eq]
      rfl
    rw [kept]
    exact ⟨within.settings, within.asked, within.loops⟩
  · cases asks : passage.asksVehicle with
    | false =>
        refine within.mono fun ending => ?_
        rw [Passage.endsSession, ending, Bool.true_or]
    | true =>
        have notEnding := Passage.isEnding_of_asksVehicle asks
        rw [notEnding] at within
        rw [Passage.endsSession, notEnding, asks, Bool.false_or, Bool.true_and]
        exact within.continueCharging

theorem withinLoops_uncounted : scenario.WithinLoops false scenario.uncounted.onboard :=
  ⟨rfl, Nat.le_of_eq (Nat.zero_add _), Nat.le_max_right _ _⟩

theorem withinLoops_countedPassages : ∀ passage ∈ scenario.countedPassages,
    scenario.WithinLoops passage.move.isEnding passage.session.onboard := by
  refine Run.forall_passages ?_ fun first isFirst second leads within => ?_
  · exact scenario.withinLoops_uncounted
  · rw [leads.onboard_eq]
    exact (scenario.withinLoops_result within).mono
      (leads.isEnding scenario.onlyStarts_counting (scenario.fits_countedPassages first isFirst))

/-- Counting changes nothing in a run.  The vehicle is asked as often as the station reports on a
round, asks for nothing and no receipt is due.  That is as often as the vehicle is still to go on,
and once more, at most. -/
theorem timesAsked_eq :
    scenario.countedRun.restrict Prod.fst = scenario.run ∧
      scenario.timesAsked = scenario.passages.countP Passage.asksVehicle ∧
      scenario.timesAsked ≤ scenario.loops - scenario.onboard.simulator.loopsDone + 1 := by
  refine ⟨scenario.restrict_countedRun, scenario.timesAsked_eq_countP, ?_⟩
  rw [timesAsked]
  obtain ⟨-, onboard_eq⟩ | ⟨last, isLast, onboard_eq⟩ := scenario.onboard_countedRun_cases
  · rw [onboard_eq]
    exact Nat.zero_le _
  · have within := scenario.withinLoops_result
      (scenario.withinLoops_countedPassages last (List.mem_of_getLast? isLast))
    rw [← onboard_eq] at within
    have asked := within.asked
    have loops := within.loops
    have atMostOnce := Bool.toNat_le (last.endsSession scenario.equipment.counting)
    omega

end Scenario

/-! ## Rounds without a question -/

/-- Whether a response reports on a round, and the station asks for nothing with it. -/
def Response.isQuietReport : Response → Bool
  | .chargingStatus content => content.report.notification == .none
  | .currentDemand content => content.report.notification == .none
  | _ => false

namespace Scenario

/-- In a scenario the vehicle is asked after every report with which the station asks for nothing,
so there is at most one more of these than there are rounds that the vehicle is set to. -/
def AsksEveryRound (scenario : Scenario) : Prop :=
  let quietReports := scenario.passages.countP fun passage =>
    passage.accepted?.any Response.isQuietReport
  scenario.timesAsked = quietReports ∧ quietReports ≤ scenario.loops + 1

instance (scenario : Scenario) : Decidable scenario.AsksEveryRound := by
  unfold AsksEveryRound
  infer_instance

/-- A station that wants a receipt after every round, three rounds long, from a vehicle that is set
to none. -/
def receiptEveryRound : Scenario :=
  let report : Response := .chargingStatus {
    responseCode := .ok
    evseId := ""
    scheduleTupleId := 1
    maxCurrent := none
    meterInfo := some meterInfo
    receiptRequired := some true
    acStatus := { notificationMaxDelay := 0, notification := .none, rcd := false } }
  let confirmation : Response :=
    .meteringReceipt { responseCode := .ok, acStatus := none, dcStatus := none }
  { ofResponses .acThreePhaseCore
      (responsesUpToPower .acThreePhaseCore ++
        [report, confirmation, report, confirmation, report, confirmation]) with
    onboard :=
      { simulator := Simulator.start { VehicleSettings.standard with chargeLoops := 0 } false
        directory := Directory.empty "" } }

/-- While receipts are due the vehicle is never asked, and charging goes on. -/
theorem not_asksEveryRound :
    ¬receiptEveryRound.AsksEveryRound ∧ receiptEveryRound.timesAsked = 0 := by
  decide +kernel

end Scenario
end PlugAndCharge
