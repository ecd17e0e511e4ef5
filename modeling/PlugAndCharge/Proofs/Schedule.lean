import PlugAndCharge.Proofs.Succession

/-!
# Schedules

A station offers schedules each time the power is agreed on, and may take its time for that.  The
vehicle takes the first schedule of an offer that the station has finished, and remembers it over
every round of charging up to the next such offer.  So whatever changes the power names the first
schedule of the last finished offer.
-/

namespace PlugAndCharge

variable {ω : Type}

/-- The schedules on offer in a response, if the station has finished with them. -/
def Response.offered? : Response → Option (List ScheduleTuple)
  | .chargeParameterDiscovery content =>
    if content.processing = .finished then some (content.schedules.getD []) else none
  | _ => none

theorem Response.offered?_eq_some {content : ChargeParameterDiscoveryRes}
    {schedules : List ScheduleTuple} :
    (chargeParameterDiscovery content).offered? = some schedules ↔
      content.processing.isFinished = true ∧ content.schedules.getD [] = schedules := by
  cases processing : content.processing <;> simp [offered?, processing, EvseProcessing.isFinished]

theorem Response.offered?_eq_none {content : ChargeParameterDiscoveryRes} :
    (chargeParameterDiscovery content).offered? = none ↔ content.processing.isFinished = false := by
  cases processing : content.processing <;> simp [offered?, processing, EvseProcessing.isFinished]

/-- A profile takes what a schedule gives: it has an entry for each one of the schedule, in the same
order, with the same start and the same power. -/
def ChargingProfile.Takes (profile : ChargingProfile) (schedule : ScheduleTuple) : Prop :=
  profile.entries.map (fun entry => (entry.start, entry.maxPower)) =
    schedule.pMaxSchedule.map fun entry => (entry.start, entry.pMax)

theorem Simulator.takes_profileOf (schedule : ScheduleTuple) :
    (profileOf schedule).Takes schedule := by
  rw [ChargingProfile.Takes, profileOf, List.map_map]
  rfl

/-! ## Turns -/

namespace Turn

variable {equipment : Equipment ω} {session after : Session ω} {next : Step} {now : Milliseconds}
  {header : Header} {response : Response}

/-- A finished offer is there to choose from, and the choice is made known. -/
theorem chooses_of_offered {schedules : List ScheduleTuple}
    (offered : response.offered? = some schedules)
    (responded : respond equipment now header response session = .ok (.next next) after) :
    ∃ selection, (equipment.vehicle.chooseSchedule schedules session.onboard).1 = .ok selection ∧
      after.context.schedule = some selection.scheduleId ∧
      next.request = .powerDelivery {
        chargeProgress := selection.chargeProgress
        scheduleTupleId := selection.scheduleId
        chargingProfile := selection.chargingProfile } := by
  cases response with
  | chargeParameterDiscovery content =>
      obtain ⟨isFinished, rfl⟩ := Response.offered?_eq_some.mp offered
      obtain ⟨-, selection, selected, rfl, rfl⟩ | ⟨notFinished, -⟩ :=
        chargeParameterDiscovery_eq_ok.mp (next_eq_ok.mp responded)
      · exact ⟨selection, selected, rfl, rfl⟩
      · rw [isFinished] at notFinished
        cases notFinished
  | _ => cases offered

/-- If there is nothing to choose from, the session fails. -/
theorem fails_of_offered {schedules : List ScheduleTuple} {error : VehicleError}
    (offered : response.offered? = some schedules)
    (failed : ∀ state, (equipment.vehicle.chooseSchedule schedules state).1 = .error error) :
    ∃ after, respond equipment now header response session = .error (.vehicle error) after := by
  cases response with
  | chargeParameterDiscovery content =>
      obtain ⟨isFinished, rfl⟩ := Response.offered?_eq_some.mp offered
      refine ⟨{
        context := session.context.noteFinished
        onboard := (equipment.vehicle.chooseSchedule (content.schedules.getD [])
          session.onboard).2 }, map_eq_error.mpr ?_⟩
      rw [chargeParameterDiscovery, if_pos isFinished, update_bind, bind_eq_error]
      exact .inl (act_eq_error.mpr ⟨error, failed _, rfl, rfl⟩)
  | _ => cases offered

/-- Until the station has finished, the vehicle keeps what it has stated before. -/
theorem again_of_not_offered {content : ChargeParameterDiscoveryRes}
    (notOffered : (Response.chargeParameterDiscovery content).offered? = none)
    (responded : chargeParameterDiscovery equipment now content session = .ok next after) :
    after.context.schedule = session.context.schedule ∧ next.request.move = .offerParameters := by
  obtain ⟨isFinished, -⟩ | ⟨-, again⟩ := chargeParameterDiscovery_eq_ok.mp responded
  · rw [Response.offered?_eq_none.mp notOffered] at isFinished
    cases isFinished
  · obtain ⟨timeout, noted, -, rfl⟩ := sendAgain_eq_ok.mp again
    obtain ⟨-, -, changed⟩ := Context.noteOngoing_eq_ok.mp noted
    rw [changed]
    exact ⟨rfl, rfl⟩

/-- Without a finished offer the schedule stays as it is. -/
theorem schedule_of_not_offered (notOffered : response.offered? = none)
    (responded : respond equipment now header response session = .ok (.next next) after) :
    after.context.schedule = session.context.schedule := by
  by_cases isAgreement : response.exchange = .chargeParameterDiscovery
  · cases response with
    | chargeParameterDiscovery content =>
        exact (again_of_not_offered notOffered (next_eq_ok.mp responded)).1
    | _ => cases isAgreement
  · have evolves : Evolves response.exchange (respond equipment now header response) :=
      Evolves.respond response
    exact (evolves.keeps fun _ _ change => change.schedule_eq isAgreement).of_eq_ok responded

end Turn

/-! ## Passages -/

namespace Passage

variable {equipment : Equipment ω} {first second : Passage ω}

/-- The schedules on offer in the response of a passage, if one is accepted with which the station
has finished. -/
def offered? (passage : Passage ω) : Option (List ScheduleTuple) :=
  passage.accepted?.bind Response.offered?

/-- The last finished offer of some passages. -/
def lastOffer? (passages : List (Passage ω)) : Option (List ScheduleTuple) :=
  (passages.filterMap offered?).getLast?

theorem lastOffer?_append_singleton (passages : List (Passage ω)) (last : Passage ω) :
    lastOffer? (passages ++ [last]) = last.offered?.or (lastOffer? passages) := by
  rw [lastOffer?, lastOffer?, List.filterMap_append]
  cases offered : last.offered? with
  | none => simp [offered]
  | some schedules => simp [offered]

theorem Leads.schedule_eq (leads : first.Leads equipment second)
    (notOffered : first.offered? = none) :
    second.session.context.schedule = first.session.context.schedule := by
  obtain ⟨header, response, after, accepted, -, responded, second_eq⟩ := leads.exists_response
  rw [offered?, accepted, Option.bind_some] at notOffered
  rw [second_eq, ← Turn.schedule_of_not_offered notOffered responded]
  exact Context.view_requestSent Context.schedule (fun _ _ _ => rfl) _ _ _

/-- The power is switched on upon a finished offer only. -/
theorem Leads.exists_offered (leads : first.Leads equipment second)
    (precedes : first.move ∈ second.move.predecessors) (switchesOn : second.move = .power .start) :
    ∃ schedules, first.offered? = some schedules := by
  rw [switchesOn] at precedes
  have offers : first.move = .offerParameters := List.mem_singleton.mp precedes
  obtain ⟨header, response, after, accepted, awaited, responded, -⟩ := leads.exists_response
  rw [offers] at awaited
  rw [offered?, accepted, Option.bind_some]
  cases response with
  | chargeParameterDiscovery content =>
      cases offered : (Response.chargeParameterDiscovery content).offered? with
      | some schedules => exact ⟨schedules, rfl⟩
      | none =>
          have again := (Turn.again_of_not_offered offered (Turn.next_eq_ok.mp responded)).2
          cases switchesOn.symm.trans again
  | _ => cases awaited

end Passage

/-! ## Scenarios -/

namespace Scenario

variable {scenario : Scenario} {front back : List (Passage Onboard)}
  {passage next : Passage Onboard}

/-- The simulated vehicle takes the first schedule of a finished offer, and all the power that it
gives. -/
theorem takes_of_offered {schedules : List ScheduleTuple}
    (leads : passage.Leads scenario.equipment next) (offered : passage.offered? = some schedules) :
    ∃ first others, schedules = first :: others ∧
      next.session.context.schedule = some first.id ∧
      next.step.request = .powerDelivery {
        chargeProgress := .start
        scheduleTupleId := first.id
        chargingProfile := some (Simulator.profileOf first) } := by
  obtain ⟨header, response, after, accepted, -, responded, next_eq⟩ := leads.exists_response
  rw [Passage.offered?, accepted, Option.bind_some] at offered
  obtain ⟨selection, selected, chosen, request_eq⟩ := Turn.chooses_of_offered offered responded
  have kept : next.session.context.schedule = after.context.schedule := by
    rw [next_eq]
    exact Context.view_requestSent Context.schedule (fun _ _ _ => rfl) _ _ _
  cases schedules with
  | nil => cases selected
  | cons first others =>
      cases selected
      exact ⟨first, others, rfl, kept.trans chosen, request_eq⟩

/-- The vehicle remembers the first schedule of the last finished offer, and nothing before there is
one. -/
theorem schedule_eq (shape : scenario.passages = front ++ passage :: back) :
    passage.session.context.schedule =
      ((Passage.lastOffer? front).bind List.head?).map ScheduleTuple.id := by
  induction front using List.reverseRecOn generalizing passage back with
  | nil =>
      obtain rfl := eq_begin_of_passages_eq shape
      rfl
  | append_singleton front before ih =>
      rw [List.append_assoc] at shape
      have leads := leads_of_passages_eq shape
      rw [Passage.lastOffer?_append_singleton]
      cases offered : before.offered? with
      | none => rw [leads.schedule_eq offered, ih shape, Option.none_or]
      | some schedules =>
          obtain ⟨first, others, rfl, chosen, -⟩ := takes_of_offered leads offered
          exact chosen

/-- The power is switched on in answer to an offer, under the first schedule of that and with all
the power that it gives. -/
theorem content_eq_of_start {content : PowerDeliveryReq}
    (shape : scenario.passages = front ++ passage :: back)
    (request_eq : passage.step.request = .powerDelivery content)
    (isStart : content.chargeProgress = .start) :
    ∃ first others, Passage.lastOffer? front = some (first :: others) ∧
      content.chargingProfile = some (Simulator.profileOf first) := by
  obtain ⟨before, previous, rfl, shape, leads, precedes⟩ :=
    exists_previous shape (by rw [Step.exchange, request_eq]; exact nofun)
  have switchesOn : passage.move = .power .start := by
    rw [Passage.move, request_eq, Request.move, isStart]
  obtain ⟨schedules, offered⟩ := leads.exists_offered precedes switchesOn
  obtain ⟨first, others, rfl, -, request_eq'⟩ := takes_of_offered leads offered
  obtain rfl := Request.powerDelivery.inj (request_eq.symm.trans request_eq')
  exact ⟨first, others, by rw [Passage.lastOffer?_append_singleton, offered, Option.some_or], rfl⟩

/-- With nothing on offer there is nothing to choose. -/
theorem fails_of_nothing_offered (scenario : Scenario) (nothing : passage.offered? = some []) :
    ∃ after, passage.result scenario.equipment = .error (.vehicle .noSchedule) after := by
  obtain ⟨response, accepted, offered⟩ := Option.bind_eq_some_iff.mp nothing
  obtain ⟨header, result_eq⟩ := Passage.exists_result_eq_of_accepted accepted
  rw [result_eq]
  exact Turn.fails_of_offered offered fun _ => rfl

/-- Whatever changes the power names the first schedule of the last finished offer, and to switch it
on takes all the power that this gives.  With nothing on offer the run fails and sends nothing more.
-/
theorem power_under_last_offer (scenario : Scenario) :
    scenario.run.sent = scenario.passages.map Passage.sending ∧
      (∀ front passage back content, scenario.passages = front ++ passage :: back →
        passage.step.request = .powerDelivery content →
          ∃ first others, Passage.lastOffer? front = some (first :: others) ∧
            content.scheduleTupleId = first.id ∧
            (content.chargeProgress = .start →
              ∃ profile, content.chargingProfile = some profile ∧ profile.Takes first)) ∧
      ∀ front passage back, scenario.passages = front ++ passage :: back →
        passage.offered? = some [] →
          back = [] ∧ scenario.run.result = .error (.vehicle .noSchedule) := by
  refine ⟨scenario.sent_run, fun front passage back content shape request_eq => ?_,
    fun front passage back shape nothing => ?_⟩
  · have isPassage : passage ∈ scenario.passages := by simp [shape]
    have chosen : passage.session.context.schedule = some content.scheduleTupleId := by
      have repeats := (scenario.sends_passages passage isPassage).repeats
      rwa [request_eq] at repeats
    rw [schedule_eq shape] at chosen
    obtain ⟨first, isFirst, id_eq⟩ := Option.map_eq_some_iff.mp chosen
    obtain ⟨schedules, isOffer, head_eq⟩ := Option.bind_eq_some_iff.mp isFirst
    obtain ⟨others, rfl⟩ := List.head?_eq_some_iff.mp head_eq
    refine ⟨first, others, isOffer, id_eq.symm, fun isStart => ?_⟩
    obtain ⟨first', others', isOffer', profile_eq⟩ := content_eq_of_start shape request_eq isStart
    obtain ⟨rfl, -⟩ := List.cons.inj (Option.some.inj (isOffer.symm.trans isOffer'))
    exact ⟨_, profile_eq, Simulator.takes_profileOf first⟩
  · obtain ⟨after, failed⟩ := scenario.fails_of_nothing_offered nothing
    obtain ⟨isLast, run_eq⟩ := eq_nil_of_result_eq_error shape failed
    exact ⟨isLast, congrArg Run.result run_eq⟩

end Scenario
end PlugAndCharge
