import PlugAndCharge.Proofs.Stop

/-!
# What responses do on board

A session changes what is on board in four ways only: it has the vehicle choose a schedule, state a
demand, say whether it goes on charging, and keep a contract.  The vehicle is asked whether it goes
on after the report of a round with which the station neither asks for anything nor wants a receipt,
and given a contract after a delivery.
-/

namespace PlugAndCharge

/-! ## Asking the vehicle -/

/-- Whether the vehicle is asked if it goes on charging: the station asks for nothing, and no receipt
is due. -/
def RoundReport.asksVehicle (report : RoundReport) (isTls : Bool) : Bool :=
  !report.receiptDue isTls && report.notification == .none

/-- Whether the vehicle is asked after a response if it goes on charging. -/
def Response.asksVehicle (isTls : Bool) : Response → Bool
  | .chargingStatus content => content.report.asksVehicle isTls
  | .currentDemand content => content.report.asksVehicle isTls
  | _ => false

/-- Choosing a schedule and stating a demand lead from good states to good states. -/
structure Vehicle.Maintains {ω : Type} (vehicle : Vehicle ω) (good : ω → Prop) : Prop where
  chooseSchedule : ∀ schedules state, good state → good (vehicle.chooseSchedule schedules state).2
  currentDemand : ∀ state, good state → good (vehicle.currentDemand state).2

namespace Turn

variable {ω α β : Type} {equipment : Equipment ω} {now : Milliseconds}

@[simp] theorem sessionOf_map (turn : Turn ω α) (change : α → β) (session : Session ω) :
    sessionOf ((change <$> turn) session) = sessionOf (turn session) := by
  simp only [Functor.map, EStateM.map]
  cases turn session <;> rfl

/-- What a turn keeps is kept if it succeeds. -/
theorem Keeps.of_eq_ok {γ : Type} {view : Context → γ} {turn : Turn ω α} {value : α}
    {session after : Session ω} (keeps : Keeps view turn)
    (succeeded : turn session = .ok value after) : view after.context = view session.context := by
  have kept := keeps session
  rwa [succeeded] at kept

/-- A turn leads from good states to good states, even if it fails. -/
def Maintains (good : ω → Prop) (turn : Turn ω α) : Prop :=
  ∀ session, good session.onboard → good (sessionOf (turn session)).onboard

namespace Maintains

variable {good : ω → Prop}

/-! ### Parts of a turn -/

protected theorem bind {turn : Turn ω α} {next : α → Turn ω β} (first : Maintains good turn)
    (second : ∀ value, Maintains good (next value)) : Maintains good (turn >>= next) := by
  intro session isGood
  have between := first session isGood
  simp only [bind, EStateM.bind]
  cases result : turn session with
  | ok value middle =>
      rw [result] at between
      exact second value middle between
  | error error middle =>
      rw [result] at between
      exact between

protected theorem ite {condition : Prop} [Decidable condition] {first second : Turn ω α}
    (maintainsFirst : Maintains good first) (maintainsSecond : Maintains good second) :
    Maintains good (if condition then first else second) := by
  split
  · exact maintainsFirst
  · exact maintainsSecond

protected theorem pure (value : α) : Maintains good (pure value : Turn ω α) :=
  fun _ isGood => isGood

protected theorem context : Maintains good context :=
  fun _ isGood => isGood

protected theorem ask (question : ω → α) : Maintains good (ask question) :=
  fun _ isGood => isGood

protected theorem fail (error : SessionError) : Maintains good (fail (α := α) error) :=
  fun _ isGood => isGood

protected theorem send {awaited : Exchange} (request : Request) :
    Maintains good (send awaited request) :=
  fun _ isGood => isGood

protected theorem update (change : Context → Context) : Maintains good (update change) :=
  fun _ isGood => isGood

protected theorem tryUpdate (change : Context → Except SessionError Context) :
    Maintains good (tryUpdate change) := by
  intro session isGood
  unfold tryUpdate
  cases change session.context <;> exact isGood

protected theorem consult (inspect : Context → Except SessionError α) :
    Maintains good (consult inspect) := by
  intro session isGood
  unfold consult
  cases inspect session.context <;> exact isGood

protected theorem alter (change : Context → Except SessionError α × Context) :
    Maintains good (alter change) := by
  intro session isGood
  unfold alter
  rcases change session.context with ⟨result, context⟩
  cases result <;> exact isGood

protected theorem act {action : ω → Except VehicleError α × ω}
    (maintains : ∀ state, good state → good (action state).2) : Maintains good (act action) := by
  intro session isGood
  have after := maintains session.onboard isGood
  unfold act
  rcases acted : action session.onboard with ⟨result, onboard⟩
  rw [acted] at after
  cases result <;> exact after

protected theorem useCredentials (activity : Activity) (use : ω → Except PkiError α) :
    Maintains good (useCredentials activity use) := by
  intro session isGood
  unfold useCredentials
  cases use session.onboard <;> exact isGood

protected theorem sendSigned [Json.Wire α] (credentials : Credentials ω) (slot : KeySlot)
    (content : α) {awaited : Exchange} (request : α → Request) :
    Maintains good (sendSigned credentials slot content awaited request) :=
  (Maintains.useCredentials _ _).bind fun _ => (Maintains.send _).bind fun _ => Maintains.pure _

/-! ### Setting up -/

protected theorem nextDetailsOrSelection : Maintains good nextDetailsOrSelection := by
  refine Maintains.context.bind fun context => ?_
  cases context.pendingDetails with
  | nil => exact Maintains.send _
  | cons serviceId rest => exact (Maintains.update _).bind fun _ => Maintains.send _

protected theorem serviceDiscovery (content : ServiceDiscoveryRes) :
    Maintains good (serviceDiscovery equipment content) := by
  unfold Turn.serviceDiscovery
  cases content.chargeService with
  | none => exact Maintains.fail _
  | some chargeService =>
      refine Maintains.context.bind fun context => (Maintains.update _).bind fun _ => ?_
      refine (Maintains.ask _).bind fun ownMode => Maintains.ite (Maintains.fail _) ?_
      refine (Maintains.update _).bind fun _ => (Maintains.ask _).bind fun certInstallNeeded => ?_
      dsimp only
      split
      · refine Maintains.ite ?_ Maintains.nextDetailsOrSelection
        exact (Maintains.update _).bind fun _ => Maintains.nextDetailsOrSelection
      · exact Maintains.nextDetailsOrSelection

protected theorem paymentServiceSelection :
    Maintains good (paymentServiceSelection equipment) := by
  refine Maintains.context.bind fun context => Maintains.ite (Maintains.send _) ?_
  refine (Maintains.ask _).bind fun certInstallNeeded => Maintains.ite ?_ ?_
  · exact (Maintains.useCredentials _ _).bind fun _ => (Maintains.useCredentials _ _).bind
      fun _ => Maintains.sendSigned _ _ _ _
  · exact (Maintains.useCredentials _ _).bind fun _ => (Maintains.useCredentials _ _).bind
      fun _ => Maintains.send _

protected theorem certificateInstallation (signature : Option Signature)
    (content : CertificateInstallationRes)
    (stores : ∀ chain key state, good state →
      good (equipment.vehicle.storeContract chain key state).2) :
    Maintains good (certificateInstallation equipment signature content) :=
  (Maintains.useCredentials _ _).bind fun _ => (Maintains.useCredentials _ _).bind fun _ =>
    (Maintains.act (stores _ _)).bind fun _ => (Maintains.useCredentials _ _).bind fun _ =>
      Maintains.send _

/-! ### Charging -/

protected theorem chargeParameterRequest :
    Maintains good (chargeParameterRequest equipment) :=
  Maintains.context.bind fun _ => (Maintains.ask _).bind fun _ => Maintains.pure _

protected theorem sendAgain {awaited : Exchange} (request : Request) :
    Maintains good (sendAgain now awaited request) :=
  (Maintains.send _).bind fun _ => (Maintains.alter _).bind fun _ => Maintains.pure _

protected theorem authorization (content : AuthorizationRes) :
    Maintains good (authorization equipment now content) := by
  refine Maintains.ite ?_ (Maintains.sendAgain _)
  exact (Maintains.update _).bind fun _ => Maintains.chargeParameterRequest.bind fun _ =>
    Maintains.send _

protected theorem changePower (progress : ChargeProgress) :
    Maintains good (changePower progress) :=
  (Maintains.consult _).bind fun _ => Maintains.send _

protected theorem stopCharging (stop : SessionEnd) : Maintains good (stopCharging stop) :=
  (Maintains.update _).bind fun _ => Maintains.changePower _

protected theorem heed (notification : EvseNotification) {otherwise : Turn ω Step}
    (maintains : notification = .none → Maintains good otherwise) :
    Maintains good (heed notification otherwise) := by
  cases notification with
  | none => exact maintains rfl
  | stopCharging => exact Maintains.stopCharging _
  | renegotiation => exact (Maintains.update _).bind fun _ => Maintains.changePower _

section Vehicle

variable (vehicle : equipment.vehicle.Maintains good)

include vehicle

protected theorem chargeParameterDiscovery (content : ChargeParameterDiscoveryRes) :
    Maintains good (chargeParameterDiscovery equipment now content) := by
  refine Maintains.ite ?_ (Maintains.chargeParameterRequest.bind fun _ => Maintains.sendAgain _)
  exact (Maintains.update _).bind fun _ => (Maintains.act (vehicle.chooseSchedule _)).bind
    fun _ => (Maintains.update _).bind fun _ => Maintains.send _

protected theorem demandCurrent : Maintains good (demandCurrent equipment) :=
  (Maintains.act vehicle.currentDemand).bind fun _ => Maintains.send _

protected theorem nextRound : Maintains good (nextRound equipment) :=
  Maintains.context.bind fun _ =>
    Maintains.ite (Maintains.send _) (Maintains.demandCurrent vehicle)

protected theorem powerDelivery : Maintains good (powerDelivery equipment) := by
  refine Maintains.context.bind fun context => ?_
  cases context.stop with
  | some stop => exact Maintains.send _
  | none =>
      refine Maintains.ite ?_ (Maintains.nextRound vehicle)
      exact (Maintains.update _).bind fun _ => Maintains.chargeParameterRequest.bind fun _ =>
        Maintains.send _

end Vehicle
end Maintains

/-! ## Any response -/

/-- What is on board once the vehicle has been asked, if it is, whether it goes on charging. -/
def onceAsked (equipment : Equipment ω) (asks : Bool) (onboard : ω) : ω :=
  if asks then (equipment.vehicle.continueCharging onboard).2 else onboard

variable {good : ω → Prop} {session : Session ω}

/-- After the report of a round what matters is whether the vehicle is asked. -/
private theorem onboard_afterRound {report : RoundReport} {another : Turn ω Step}
    (maintains : Maintains good another)
    (isGood : good (onceAsked equipment (report.asksVehicle session.context.isTls)
      session.onboard)) :
    good (sessionOf (afterRound equipment report another session)).onboard := by
  rw [afterRound, context_bind]
  by_cases due : report.receiptRequired = true ∧ session.context.isTls = true
  · have notAsked : report.asksVehicle session.context.isTls = false := by
      simp [RoundReport.asksVehicle, RoundReport.receiptDue, due.1, due.2]
    rw [notAsked] at isGood
    rw [if_pos due]
    cases report.meterInfo with
    | none => exact Maintains.fail _ session isGood
    | some meterInfo =>
        exact (Maintains.context.bind fun _ => Maintains.sendSigned _ _ _ _) session isGood
  · rw [if_neg due]
    have notDue : report.receiptDue session.context.isTls = false := by
      simpa [RoundReport.receiptDue] using due
    cases notified : report.notification with
    | none =>
        have asked : report.asksVehicle session.context.isTls = true := by
          simp [RoundReport.asksVehicle, notDue, notified]
        rw [asked] at isGood
        rw [heed, continueOrStop, choose_bind]
        have stops (wantsPause : Bool) : Maintains good
            (stopCharging (if wantsPause then .pause else .terminate)) := Maintains.stopCharging _
        exact (maintains.ite ((Maintains.ask _).bind stops)) _ isGood
    | stopCharging | renegotiation =>
        have notAsked : report.asksVehicle session.context.isTls = false := by
          simp [RoundReport.asksVehicle, notified]
        rw [notAsked] at isGood
        exact Maintains.heed _ (fun isNone => by cases isNone) session isGood

/-- What is on board after a response is good if it is so once the vehicle has been asked, if it is,
and keeping a contract leads from good states to good states, if there is a delivery. -/
theorem onboard_respond {header : Header} {response : Response}
    (vehicle : equipment.vehicle.Maintains good)
    (stores : response.exchange = .certificateInstallation → ∀ chain key state, good state →
      good (equipment.vehicle.storeContract chain key state).2)
    (isGood : good (onceAsked equipment (response.asksVehicle session.context.isTls)
      session.onboard)) :
    good (sessionOf (respond equipment now header response session)).onboard := by
  have viaMap {α : Type} {turn : Turn ω α} {change : α → Outcome}
      (after : good (sessionOf (turn session)).onboard) :
      good (sessionOf ((change <$> turn) session)).onboard := by
    rwa [sessionOf_map]
  cases response with
  | sessionSetup content =>
      exact viaMap (((Maintains.tryUpdate _).bind fun _ => (Maintains.tryUpdate _).bind fun _ =>
        Maintains.send _) session isGood)
  | serviceDiscovery content => exact viaMap (Maintains.serviceDiscovery content session isGood)
  | serviceDetail content => exact viaMap (Maintains.nextDetailsOrSelection session isGood)
  | paymentServiceSelection content =>
      exact viaMap (Maintains.paymentServiceSelection session isGood)
  | certificateInstallation content =>
      exact viaMap (Maintains.certificateInstallation _ content (stores rfl) session isGood)
  | paymentDetails content => exact viaMap (Maintains.sendSigned _ _ _ _ session isGood)
  | authorization content => exact viaMap (Maintains.authorization content session isGood)
  | chargeParameterDiscovery content =>
      exact viaMap (Maintains.chargeParameterDiscovery vehicle content session isGood)
  | powerDelivery content => exact viaMap (Maintains.powerDelivery vehicle session isGood)
  | chargingStatus content => exact viaMap (onboard_afterRound (Maintains.send _) isGood)
  | currentDemand content =>
      exact viaMap (onboard_afterRound (Maintains.demandCurrent vehicle) isGood)
  | meteringReceipt content =>
      exact viaMap (Maintains.heed _ (fun _ => Maintains.nextRound vehicle) session isGood)
  | sessionStop content =>
      exact viaMap ((Maintains.context.bind fun _ => (Maintains.update _).bind fun _ =>
        Maintains.pure _) session isGood)

end Turn

/-! ## Passages -/

namespace Passage

variable {ω : Type} {equipment : Equipment ω} {first second passage : Passage ω}

/-- A passage leads to another one by the response that is accepted in it. -/
theorem Leads.exists_response (leads : first.Leads equipment second) :
    ∃ header response after, first.accepted? = some response ∧
      response.exchange = first.move.exchange ∧
      Turn.respond equipment first.endedAt header response first.session =
        .ok (.next second.step) after ∧
      second = begin first.cancelAt first.endedAt second.step after first.replies.tail := by
  obtain ⟨after, led, second_eq⟩ := leads
  obtain ⟨-, error, failed⟩ | ⟨header, response, accepted, awaited, responded⟩ :=
    first.result_cases
  · rw [failed] at led
    cases led
  · rw [responded] at led
    exact ⟨header, response, after, accepted, awaited.trans (Request.exchange_move _).symm, led,
      second_eq⟩

theorem Leads.onboard_eq (leads : first.Leads equipment second) :
    second.session.onboard = (Turn.sessionOf (first.result equipment)).onboard := by
  obtain ⟨after, led, second_eq⟩ := leads
  rw [second_eq, led]
  rfl

theorem onboard_conclusion (equipment : Equipment ω) (passage : Passage ω) :
    (passage.conclusion equipment).session.onboard =
      (Turn.sessionOf (passage.result equipment)).onboard := by
  unfold conclusion
  rcases passage.result equipment with ⟨next | reason, after⟩ | ⟨error, after⟩ <;> rfl

/-- Whether the vehicle is asked in a passage if it goes on charging. -/
def asksVehicle (passage : Passage ω) : Bool :=
  passage.accepted?.any fun response => response.asksVehicle passage.session.context.isTls

/-- What is on board after a passage is good if it is so once the vehicle has been asked, if it is,
and keeping a contract leads from good states to good states, if a delivery is awaited. -/
theorem onboard_result (good : ω → Prop) (vehicle : equipment.vehicle.Maintains good)
    (stores : passage.step.exchange = .certificateInstallation → ∀ chain key state, good state →
      good (equipment.vehicle.storeContract chain key state).2)
    (isGood : good (Turn.onceAsked equipment passage.asksVehicle passage.session.onboard)) :
    good (Turn.sessionOf (passage.result equipment)).onboard := by
  obtain ⟨notAccepted, error, failed⟩ | ⟨header, response, accepted, awaited, responded⟩ :=
    passage.result_cases
  · rw [asksVehicle, notAccepted] at isGood
    rw [failed]
    exact isGood
  · rw [asksVehicle, accepted] at isGood
    rw [responded]
    exact Turn.onboard_respond vehicle (fun delivery => stores (awaited ▸ delivery)) isGood

end Passage

/-! ## Runs -/

namespace Run

variable {ω : Type} {equipment : Equipment ω} {cancelAt : Option Milliseconds}
  {replies : List Reply} {now : Milliseconds} {step : Step} {session : Session ω}

/-- What holds of the first passage of a run, and is passed on from each passage to the next one,
holds of all of them. -/
theorem forall_passages {holds : Passage ω → Prop}
    (begins : holds (Passage.begin cancelAt now step session replies))
    (passesOn : ∀ first ∈ passages equipment cancelAt replies now step session, ∀ second,
      first.Leads equipment second → holds first → holds second) :
    ∀ passage ∈ passages equipment cancelAt replies now step session, holds passage := by
  have chain := (isChain_passages equipment cancelAt replies now step session).imp_of_mem_imp
    fun first second isFirst _ leads => And.intro isFirst leads
  refine chain.induction _ _ (fun first second ⟨isFirst, leads⟩ => ?_) fun _ => ?_
  · exact passesOn first isFirst second leads
  · rw [head_passages]
    exact begins

/-- What is on board after a run is what is on board after its last passage, or what was there in
the beginning if there is none. -/
theorem onboard_drive_cases (equipment : Equipment ω) (cancelAt : Option Milliseconds)
    (replies : List Reply) (now : Milliseconds) (step : Step) (session : Session ω)
    [step.AwaitsAnswer] :
    (passages equipment cancelAt replies now step session = [] ∧
      (drive equipment cancelAt replies now step session).session.onboard = session.onboard) ∨
    ∃ last ∈ (passages equipment cancelAt replies now step session).getLast?,
      (drive equipment cancelAt replies now step session).session.onboard =
        (Turn.sessionOf (last.result equipment)).onboard := by
  obtain ⟨fault, -, isNil, run_eq⟩ | ⟨last, isLast, run_eq⟩ :=
    drive_cases equipment cancelAt replies now step session
  · exact .inl ⟨isNil, by rw [run_eq]; rfl⟩
  · refine .inr ⟨last, isLast, ?_⟩
    rw [run_eq]
    exact Passage.onboard_conclusion equipment last

end Run

/-! ## The simulated vehicle -/

/-- Another round of charging changes nothing but the number of rounds. -/
theorem Simulator.exists_continueCharging_eq (simulator : Simulator) :
    ∃ loopsDone, simulator.continueCharging.2 = { simulator with loopsDone } := by
  unfold Simulator.continueCharging
  split <;> exact ⟨_, rfl⟩

/-- Keeping a contract changes nothing but the contract and the directory. -/
theorem Onboard.exists_storeContract_eq (suite : Suite) (chain : CertificateChain)
    (key : P256.PrivateKey) (onboard : Onboard) :
    ∃ contract directory, (onboard.storeContract suite chain key).2 =
      { simulator := { onboard.simulator with contract }, directory } := by
  unfold Onboard.storeContract
  dsimp only
  split <;> exact ⟨_, _, rfl⟩

namespace Scenario

/-- What holds of the simulated vehicle at the start of a scenario holds throughout, if neither
another round of charging nor a contract that is kept changes it. -/
theorem onboard_maintained (scenario : Scenario) (good : Onboard → Prop)
    (isGood : good scenario.onboard)
    (continues : ∀ onboard, good onboard →
      good (scenario.equipment.vehicle.continueCharging onboard).2)
    (stores : ∀ passage ∈ scenario.passages, passage.step.exchange = .certificateInstallation →
      ∀ chain key onboard, good onboard →
        good (scenario.equipment.vehicle.storeContract chain key onboard).2) :
    (∀ passage ∈ scenario.passages, good passage.session.onboard) ∧
      good scenario.run.session.onboard := by
  have vehicle : scenario.equipment.vehicle.Maintains good :=
    ⟨fun _ _ isGood => isGood, fun _ isGood => isGood⟩
  have after (passage : Passage Onboard) (isPassage : passage ∈ scenario.passages)
      (isGood : good passage.session.onboard) :
      good (Turn.sessionOf (passage.result scenario.equipment)).onboard := by
    refine Passage.onboard_result good vehicle (stores passage isPassage) ?_
    unfold Turn.onceAsked
    split
    · exact continues _ isGood
    · exact isGood
  have always : ∀ passage ∈ scenario.passages, good passage.session.onboard := by
    refine Run.forall_passages isGood fun first isFirst second leads isGood => ?_
    rw [leads.onboard_eq]
    exact after first isFirst isGood
  refine ⟨always, ?_⟩
  rw [run, Run.start]
  obtain ⟨-, onboard_eq⟩ | ⟨last, isLast, onboard_eq⟩ := Run.onboard_drive_cases scenario.equipment
    scenario.cancelAt scenario.replies 0 (Step.first scenario.session.context) scenario.session
  · rw [onboard_eq]
    exact isGood
  · have isPassage := List.mem_of_getLast? isLast
    rw [onboard_eq]
    exact after last isPassage (always last isPassage)

end Scenario
end PlugAndCharge
