import PlugAndCharge.Proofs.Scenario

/-!
# The order of requests

Whatever the station answers, the simulated vehicle sends its requests in the order that
`Course.whole` prescribes, with rounds of charging in the mode that the session has settled on, and
a session that comes to its planned end has gone through a whole word.
-/

namespace PlugAndCharge

variable {ω : Type}

/-- What a message does in the course of a session, if it is a request. -/
def Message.move? (message : Message) : Option Move :=
  match message.body with
  | .request request => some request.move
  | .response _ => none

/-- What the requests of a run do, in the order in which they were sent. -/
def Run.moves (run : Run ω) : List Move :=
  run.sent.filterMap fun sending => sending.2.move?

theorem Context.isAc_eq_of_settlement {context other : Context}
    (same : context.settlement = other.settlement) : context.isAc = other.isAc := by
  have sameMode : context.energyMode = other.energyMode :=
    congrArg (fun settlement => settlement.2.2) same
  rw [isAc, isAc, sameMode]

/-- Before a session is settled, the kind of current does not matter. -/
theorem Move.mem_successors_of_not_isSettled {move next : Move} {isAc other : Bool}
    (unsettled : ¬next.isSettled = true) (follows : next ∈ move.successors isAc) :
    next ∈ move.successors other := by
  cases next with
  | setUp | discover =>
      cases move with
      | power progress => cases progress <;> simp [Move.successors] at follows
      | _ => simp_all [Move.successors]
  | _ => exact absurd rfl unsettled

namespace Scenario

theorem moves_run (scenario : Scenario) :
    scenario.run.moves = scenario.passages.map Passage.move := by
  rw [Run.moves, sent_run, List.filterMap_map]
  exact List.filterMap_eq_map_iff_forall_eq_some.mpr fun _ _ => rfl

/-- Each request is a successor of the one before it, in the mode that is settled on in the end. -/
theorem isChain_moves (scenario : Scenario) :
    scenario.run.moves.IsChain fun move next =>
      next ∈ move.successors scenario.run.session.context.isAc := by
  rw [moves_run, List.isChain_map]
  refine scenario.isChain.imp_of_mem_imp fun first second isFirst isSecond leads => ?_
  have follows := (leads.fits scenario.onlyStarts (scenario.fits first isFirst)).2
  by_cases settled : second.move.isSettled = true
  · have same := scenario.settlement_eq second isSecond settled
    rwa [Context.isAc_eq_of_settlement same] at follows
  · exact Move.mem_successors_of_not_isSettled settled follows

/-- If anything is sent, the setup is sent first. -/
theorem moves_eq_nil_or_cons (scenario : Scenario) :
    scenario.run.moves = [] ∨ ∃ moves, scenario.run.moves = .setUp :: moves := by
  rw [moves_run]
  cases shape : scenario.passages with
  | nil => exact .inl rfl
  | cons first rest =>
      rw [eq_begin_of_passages_eq shape]
      exact .inr ⟨rest.map Passage.move, rfl⟩

/-- A round of charging is sent only in the mode that is settled on. -/
theorem exists_mode_of_round_mem (scenario : Scenario) {isAc : Bool}
    (charges : .round isAc ∈ scenario.run.moves) :
    ∃ mode, scenario.run.session.context.energyMode = some mode ∧ mode.isAc = isAc := by
  rw [moves_run] at charges
  obtain ⟨passage, isPassage, move_eq⟩ := List.mem_map.mp charges
  have fits := scenario.fits passage isPassage
  have settled : passage.move.isSettled = true := by rw [move_eq]; rfl
  have same : passage.session.context.energyMode = scenario.run.session.context.energyMode :=
    congrArg (fun settlement => settlement.2.2) (scenario.settlement_eq passage isPassage settled)
  obtain ⟨mode, mode_eq⟩ := Option.isSome_iff_exists.mp (fits.isSettled_iff.mp settled)
  have current : isAc = passage.session.context.isAc := by
    have runsOn := fits.current
    rw [move_eq] at runsOn
    exact beq_iff_eq.mp runsOn
  refine ⟨mode, same ▸ mode_eq, ?_⟩
  rw [current, Context.isAc, mode_eq]

/-- A session that comes to its planned end has sent the request for that. -/
theorem getLast?_moves_of_result (scenario : Scenario) {reason : StopReason}
    (succeeded : scenario.run.result = .ok reason) :
    scenario.run.moves.getLast? = some .stop := by
  obtain ⟨last, isLast, led⟩ := exists_last_of_result succeeded
  have exchange_eq : last.step.request.exchange = .sessionStop :=
    (Passage.sessionStop_of_terminated led).1
  have stops : last.move = .stop := by
    obtain ⟨progress, move_eq⟩ := last.move.exists_eq_ofExchange
    rw [move_eq, Passage.move, Request.exchange_move, exchange_eq]
    rfl
  rw [moves_run, List.getLast?_map, isLast]
  exact congrArg some stops

/-- The requests of a session follow its course: what is sent is the beginning of a word of the
course in the mode that the session has settled on, and all of the word if the session comes to its
planned end. -/
theorem requests_follow_course (scenario : Scenario) :
    (∀ sending ∈ scenario.run.sent, ∃ request, sending.2.body = .request request) ∧
      (∃ rest,
        scenario.run.moves ++ rest ∈ Course.whole scenario.run.session.context.isAc) ∧
      (∀ isAc, .round isAc ∈ scenario.run.moves →
        ∃ mode, scenario.run.session.context.energyMode = some mode ∧ mode.isAc = isAc) ∧
      ∀ reason, scenario.run.result = .ok reason →
        scenario.run.moves ∈ Course.whole scenario.run.session.context.isAc := by
  have begins := scenario.moves_eq_nil_or_cons
  have chain := scenario.isChain_moves
  refine ⟨?_, ?_, fun isAc => scenario.exists_mode_of_round_mem, fun reason succeeded => ?_⟩
  · intro sending isSent
    rw [sent_run] at isSent
    obtain ⟨passage, -, rfl⟩ := List.mem_map.mp isSent
    exact ⟨passage.step.request, rfl⟩
  · obtain moves_eq | ⟨moves, moves_eq⟩ := begins
    · obtain ⟨rest, isWord⟩ := Course.exists_append_mem_continuation (List.isChain_singleton .setUp)
      rw [moves_eq]
      exact ⟨_, isWord⟩
    · rw [moves_eq] at chain ⊢
      exact Course.exists_append_mem_continuation chain
  · have ends := scenario.getLast?_moves_of_result succeeded
    obtain moves_eq | ⟨moves, moves_eq⟩ := begins
    · simp [moves_eq] at ends
    · rw [moves_eq] at chain ends ⊢
      exact Course.mem_continuation_of_isChain chain ends

end Scenario
end PlugAndCharge
