import PlugAndCharge.Proofs.Signing
import PlugAndCharge.Proofs.Succession

/-!
# Leave to charge

Nothing that belongs to the charging is sent before the station has given leave to charge.  Under a
contract the vehicle first asks for leave in answer to a challenge, which it signs with the key of
the contract; without one it never presents a contract and signs nothing.
-/

namespace PlugAndCharge

variable {ω : Type}

/-! ## Exchanges -/

namespace Exchange

/-- The exchanges for which the station has to give leave. -/
def charging : List Exchange :=
  [.chargeParameterDiscovery, .powerDelivery, .chargingStatus, .currentDemand, .meteringReceipt]

/-- The exchanges in which a contract takes part. -/
def contractual : List Exchange := [.certificateInstallation, .paymentDetails]

variable {exchange next : Exchange}

theorem eq_authorization_of_follows (follows : next ∈ exchange.followers)
    (isCharging : next ∈ charging) (notCharging : exchange ∉ charging) :
    exchange = .authorization := by
  cases exchange <;> grind [followers, charging]

theorem mem_of_authorization_follows (follows : .authorization ∈ exchange.followers) :
    exchange ∈ [.paymentServiceSelection, .paymentDetails, .authorization] := by
  revert follows
  cases exchange <;> simp [followers]

theorem mem_of_contractual_follows (follows : next ∈ exchange.followers)
    (isContractual : next ∈ contractual) :
    exchange = .paymentServiceSelection ∨ exchange ∈ contractual := by
  cases exchange <;> grind [followers, contractual]

end Exchange

/-- What follows upon a settled session is settled. -/
theorem Move.isSettled_of_follows {move next : Move} (settled : move.isSettled = true)
    (follows : next.exchange ∈ move.exchange.followers) : next.isSettled = true := by
  refine Move.isSettled_of_exchange_ne (fun isSetup => ?_) fun isOffer => ?_
  · rw [isSetup] at follows
    revert follows
    cases move.exchange <;> simp [Exchange.followers]
  · rw [isOffer] at follows
    revert settled
    cases move with
    | setUp => simp [isSettled]
    | round isAc => cases isAc <;> simp [exchange, Exchange.followers] at follows
    | _ => simp [exchange, Exchange.followers] at follows

/-! ## Asking for leave -/

/-- The request for leave that answers a challenge: it repeats the challenge. -/
def PaymentDetailsRes.answer (content : PaymentDetailsRes) : AuthorizationReq where
  id := some Turn.signedElementId
  genChallenge := some content.genChallenge

/-- What is signed of the answer to a challenge. -/
def PaymentDetailsRes.signedAnswer (content : PaymentDetailsRes) : SignedElement :=
  .ofValue Turn.signedElementId content.answer

namespace Step

variable {step : Step} {content : PaymentDetailsRes} {state : ω}

/-- A step asks for leave to charge without a word on a contract. -/
def IsBlank (step : Step) : Prop :=
  step.request = .authorization { id := none, genChallenge := none } ∧ step.signature = none

/-- A step asks for leave to charge in answer to a challenge, signed with the key of the contract.
-/
def Answers (credentials : Credentials ω) (state : ω) (content : PaymentDetailsRes)
    (step : Step) : Prop :=
  step.request = .authorization content.answer ∧
    ∃ signature,
      credentials.sign state [content.signedAnswer] .contractLeaf = .ok signature ∧
        step.signature = some signature

/-- With credentials in a directory, an answer is signed with the key that is stored there. -/
theorem Answers.exists_key {suite : Suite} {directory : ω → Directory}
    (answers : step.Answers (Directory.credentials suite directory) state content) :
    ∃ key, (directory state).loadKey suite .contractLeaf = .ok key ∧
      step.signature = some (Signature.create suite [content.signedAnswer] key) := by
  obtain ⟨-, signature, signs, signature_eq⟩ := answers
  obtain ⟨key, loaded, rfl⟩ := Directory.sign_eq_ok.mp signs
  exact ⟨key, loaded, signature_eq⟩

end Step

namespace Turn

variable {equipment : Equipment ω} {session after : Session ω} {next : Step} {now : Milliseconds}

/-- Without a contract leave is asked for at once, and with one it is not. -/
theorem paymentServiceSelection_cases
    (selected : paymentServiceSelection equipment session = .ok next after) :
    (session.context.paymentOption ≠ some .contract ∧ next.IsBlank) ∨
      (session.context.paymentOption = some .contract ∧ next.exchange ∈ Exchange.contractual) := by
  obtain ⟨notContract, rfl, rfl⟩ | ⟨isContract, -, requested⟩ | ⟨isContract, -, presented⟩ :=
    paymentServiceSelection_eq_ok.mp selected
  · exact .inl ⟨notContract, rfl, rfl⟩
  · obtain ⟨_, _, _, -, -, -, -, rfl⟩ := requestContract_eq_ok.mp requested
    exact .inr ⟨isContract, List.mem_cons_self⟩
  · obtain ⟨_, _, -, -, -, rfl⟩ := presentContract_eq_ok.mp presented
    exact .inr ⟨isContract, List.mem_cons_of_mem _ List.mem_cons_self⟩

theorem answers_of_paymentDetails {content : PaymentDetailsRes}
    (challenged : paymentDetails equipment content session = .ok next after) :
    next.Answers equipment.credentials after.onboard content := by
  obtain ⟨signature, signs, rfl, rfl⟩ := paymentDetails_eq_ok.mp challenged
  exact ⟨rfl, signature, signs, rfl⟩

/-- The station has given leave, or is asked again. -/
theorem authorization_cases {content : AuthorizationRes}
    (responded : authorization equipment now content session = .ok next after) :
    (content.processing = .finished ∧ next.exchange = .chargeParameterDiscovery) ∨
      next.IsBlank := by
  obtain ⟨isFinished, -, rfl⟩ | ⟨-, again⟩ := authorization_eq_ok.mp responded
  · refine .inl ⟨?_, rfl⟩
    revert isFinished
    cases content.processing <;> simp [EvseProcessing.isFinished]
  · obtain ⟨_, -, -, rfl⟩ := sendAgain_eq_ok.mp again
    exact .inr ⟨rfl, rfl⟩

end Turn

namespace Passage

variable {equipment : Equipment ω} {first second : Passage ω}

/-- Leave is asked for right after the selection if there is no contract, in answer to a challenge
if there is one, and again while the station has not decided. -/
theorem Leads.authorization_cases (leads : first.Leads equipment second)
    (asks : second.step.exchange = .authorization) :
    (first.step.exchange = .paymentServiceSelection ∧
        first.session.context.paymentOption ≠ some .contract ∧ second.step.IsBlank) ∨
      (∃ content, first.accepted? = some (.paymentDetails content) ∧
        second.step.Answers equipment.credentials second.session.onboard content) ∨
      (first.step.exchange = .authorization ∧ second.step.IsBlank) := by
  have follows := leads.follows.exchange_mem
  rw [asks] at follows
  have before := Exchange.mem_of_authorization_follows follows
  obtain ⟨header, response, after, accepted, isAwaited, responded, second_eq⟩ :=
    leads.exists_response
  rw [exchange_move] at isAwaited
  rw [← isAwaited] at before ⊢
  cases response with
  | paymentServiceSelection content =>
      obtain ⟨notContract, isBlank⟩ | ⟨-, isContractual⟩ :=
        Turn.paymentServiceSelection_cases (Turn.next_eq_ok.mp responded)
      · exact .inl ⟨rfl, notContract, isBlank⟩
      · simp [asks, Exchange.contractual] at isContractual
  | paymentDetails content =>
      have answers := Turn.answers_of_paymentDetails (Turn.next_eq_ok.mp responded)
      have onboard_eq : second.session.onboard = after.onboard :=
        congrArg (fun passage => passage.session.onboard) second_eq
      exact .inr (.inl ⟨content, accepted, onboard_eq ▸ answers⟩)
  | authorization content =>
      obtain ⟨-, offers⟩ | isBlank := Turn.authorization_cases (Turn.next_eq_ok.mp responded)
      · rw [asks] at offers
        cases offers
      · exact .inr (.inr ⟨rfl, isBlank⟩)
  | _ => simp [Response.exchange] at before

/-- What belongs to the charging follows upon something that does so too, or upon leave. -/
theorem Leads.charging_cases (leads : first.Leads equipment second)
    (isCharging : second.step.exchange ∈ Exchange.charging) :
    first.step.exchange ∈ Exchange.charging ∨
      ∃ content, first.accepted? = some (.authorization content) ∧
        content.processing = .finished := by
  by_cases before : first.step.exchange ∈ Exchange.charging
  · exact .inl before
  · have asks :=
      Exchange.eq_authorization_of_follows leads.follows.exchange_mem isCharging before
    obtain ⟨header, response, after, accepted, isAwaited, responded, -⟩ := leads.exists_response
    rw [exchange_move, asks] at isAwaited
    cases response with
    | authorization content =>
        obtain ⟨isFinished, -⟩ | isBlank :=
          Turn.authorization_cases (Turn.next_eq_ok.mp responded)
        · exact .inr ⟨content, accepted, isFinished⟩
        · rw [Step.exchange, isBlank.1] at isCharging
          simp [Request.exchange, Exchange.charging] at isCharging
    | _ => cases isAwaited

/-- A contract takes part only if the session has settled on it. -/
theorem Leads.paymentOption_eq (leads : first.Leads equipment second)
    (isContract : first.step.exchange ∈ Exchange.contractual →
      first.session.context.paymentOption = some .contract)
    (isContractual : second.step.exchange ∈ Exchange.contractual) :
    second.session.context.paymentOption = some .contract := by
  have kept (settled : first.move.isSettled = true) :
      second.session.context.paymentOption = first.session.context.paymentOption :=
    congrArg (fun settlement => settlement.2.1) (leads.settlement_eq settled)
  obtain selects | before :=
    Exchange.mem_of_contractual_follows leads.follows.exchange_mem isContractual
  · obtain ⟨header, response, after, -, isAwaited, responded, -⟩ := leads.exists_response
    have settled : first.move.isSettled = true :=
      Move.isSettled_of_exchange_ne (by simp [exchange_move, selects])
        (by simp [exchange_move, selects])
    rw [kept settled]
    rw [exchange_move, selects] at isAwaited
    cases response with
    | paymentServiceSelection content =>
        obtain ⟨-, isBlank⟩ | ⟨isContract, -⟩ :=
          Turn.paymentServiceSelection_cases (Turn.next_eq_ok.mp responded)
        · rw [Step.exchange, isBlank.1] at isContractual
          simp [Request.exchange, Exchange.contractual] at isContractual
        · exact isContract
    | _ => cases isAwaited
  · have settled : first.move.isSettled = true := by
      refine Move.isSettled_of_exchange_ne (fun isSetup => ?_) fun isOffer => ?_
      · rw [← exchange_move, isSetup] at before
        simp [Exchange.contractual] at before
      · rw [← exchange_move, isOffer] at before
        simp [Exchange.contractual] at before
    rw [kept settled]
    exact isContract before

/-- An answer that gives leave to charge has been accepted: the station has finished, has not
refused, and names the session that the run belongs to. -/
def GivesLeave (run : Run ω) (passage : Passage ω) : Prop :=
  ∃ answer content, passage.received = .ok answer ∧
    answer.body = .response (.authorization content) ∧
    passage.accepted? = some (.authorization content) ∧
    content.processing = .finished ∧ content.responseCode.isFailure = false ∧
    run.session.context.sessionId = some answer.header.sessionId

end Passage

/-! ## Runs -/

namespace Run

open Passage

variable (equipment : Equipment ω) (cancelAt : Option Milliseconds) (replies : List Reply)

/-- In every passage from the settlement on, a session is settled as it is in the end. -/
theorem settlement_eq (now : Milliseconds) (step : Step) (session : Session ω)
    [step.AwaitsAnswer] :
    ∀ passage ∈ passages equipment cancelAt replies now step session,
      passage.move.isSettled = true →
        passage.session.context.settlement =
          (drive equipment cancelAt replies now step session).session.context.settlement := by
  refine settlement_drive fun first _ second _ leads settled => ?_
  have follows := leads.follows.exchange_mem
  rw [← exchange_move, ← exchange_move] at follows
  exact Move.isSettled_of_follows settled follows

variable (session : Session ω)

/-- A contract takes part only in a session that settles on it. -/
theorem paymentOption_of_contractual :
    ∀ passage ∈ passages equipment cancelAt replies 0 (Step.first session.context) session,
      passage.step.exchange ∈ Exchange.contractual →
        passage.session.context.paymentOption = some .contract := by
  have notFirst : Exchange.sessionSetup ∉ Exchange.contractual := by simp [Exchange.contractual]
  exact forall_passages (fun isContractual => absurd isContractual notFirst)
    fun _ _ _ leads isContract isContractual => leads.paymentOption_eq isContract isContractual

variable {front back : List (Passage ω)} {passage : Passage ω}

/-- Whatever belongs to the charging is sent after leave has been given. -/
theorem exists_givesLeave
    (shape : passages equipment cancelAt replies 0 (Step.first session.context) session =
      front ++ passage :: back)
    (isCharging : passage.step.exchange ∈ Exchange.charging) :
    ∃ earlier ∈ front, earlier.GivesLeave (start equipment cancelAt replies session) := by
  have notFirst : Exchange.sessionSetup ∉ Exchange.charging := by simp [Exchange.charging]
  obtain ⟨earlier, isEarlier, content, accepted, isFinished⟩ :=
    exists_earlier equipment cancelAt replies session (·.step.exchange ∈ Exchange.charging) shape
      notFirst (fun _ _ leads => leads.charging_cases) isCharging
  obtain ⟨answer, received, validated⟩ := accepted?_eq_some.mp accepted
  obtain ⟨body_eq, isAwaited, own, notFailure⟩ := Context.validate_eq_ok.mp validated
  have isPassage : earlier ∈
      passages equipment cancelAt replies 0 (Step.first session.context) session :=
    shape ▸ List.mem_append_left _ isEarlier
  have notSetup : earlier.step.exchange ≠ .sessionSetup := by
    rw [← isAwaited]
    exact nofun
  have named :=
    isSome_sessionId_passages equipment cancelAt replies session earlier isPassage notSetup
  obtain ⟨sessionId, sessionId_eq⟩ := Option.isSome_iff_exists.mp named
  have lasts := lasts_drive equipment cancelAt replies session _ _ earlier isPassage
  refine ⟨earlier, isEarlier, answer, content, received, body_eq, accepted, isFinished,
    notFailure, ?_⟩
  rw [own sessionId sessionId_eq]
  exact lasts.sessionId sessionId sessionId_eq

/-- After the selection a session has settled on the way to pay that it has in the end. -/
theorem paymentOption_eq (isPassage : passage ∈
      passages equipment cancelAt replies 0 (Step.first session.context) session)
    (notSetup : passage.step.exchange ≠ .sessionSetup)
    (notOffer : passage.step.exchange ≠ .serviceDiscovery) :
    passage.session.context.paymentOption =
      (start equipment cancelAt replies session).session.context.paymentOption := by
  rw [← exchange_move] at notSetup notOffer
  have settled := Move.isSettled_of_exchange_ne notSetup notOffer
  exact congrArg (fun settlement => settlement.2.1)
    (settlement_eq equipment cancelAt replies 0 _ session passage isPassage settled)

/-- Under a contract the first request for leave answers the challenge of the response before it. -/
theorem exists_answers_of_contract
    (isContract : (start equipment cancelAt replies session).session.context.paymentOption =
      some .contract)
    (shape : passages equipment cancelAt replies 0 (Step.first session.context) session =
      front ++ passage :: back)
    (asks : passage.step.exchange = .authorization)
    (isFirst : ∀ earlier ∈ front, earlier.step.exchange ≠ .authorization) :
    ∃ before presents content, front = before ++ [presents] ∧
      presents.accepted? = some (.paymentDetails content) ∧
      passage.step.Answers equipment.credentials passage.session.onboard content := by
  obtain ⟨before, previous, rfl, leads, isPrevious⟩ :=
    exists_previous equipment cancelAt replies session shape (by simp [asks])
  obtain ⟨selects, notContract, -⟩ | ⟨content, accepted, answers⟩ | ⟨asksBefore, -⟩ :=
    leads.authorization_cases asks
  · have asInTheEnd := paymentOption_eq equipment cancelAt replies session isPrevious
      (by simp [selects]) (by simp [selects])
    exact absurd (asInTheEnd.trans isContract) notContract
  · exact ⟨before, previous, content, rfl, accepted, answers⟩
  · exact absurd asksBefore (isFirst previous (by simp))

/-- Without a contract none is presented, and leave is asked for without a word on one. -/
theorem isBlank_of_external
    (isExternal : (start equipment cancelAt replies session).session.context.paymentOption =
      some .external)
    (isPassage : passage ∈
      passages equipment cancelAt replies 0 (Step.first session.context) session) :
    passage.step.exchange ≠ .paymentDetails ∧
      (passage.step.exchange = .authorization → passage.step.IsBlank) := by
  have notContractual (other : Passage ω) (isOther : other ∈
      passages equipment cancelAt replies 0 (Step.first session.context) session) :
      other.step.exchange ≠ .paymentDetails := by
    intro presents
    have isContract :=
      paymentOption_of_contractual equipment cancelAt replies session other isOther
        (by simp [presents, Exchange.contractual])
    have asInTheEnd := paymentOption_eq equipment cancelAt replies session isOther
      (by simp [presents]) (by simp [presents])
    rw [isContract, isExternal] at asInTheEnd
    cases asInTheEnd
  refine ⟨notContractual passage isPassage, fun asks => ?_⟩
  obtain ⟨front, back, shape⟩ := List.append_of_mem isPassage
  obtain ⟨before, previous, -, leads, isPrevious⟩ :=
    exists_previous equipment cancelAt replies session shape (by simp [asks])
  obtain ⟨-, -, isBlank⟩ | ⟨content, accepted, -⟩ | ⟨-, isBlank⟩ := leads.authorization_cases asks
  · exact isBlank
  · exact absurd (exchange_of_accepted accepted).symm (notContractual previous isPrevious)
  · exact isBlank

/-- Nothing that belongs to the charging is sent before leave has been given.  If the session
settles on a contract, leave is first asked for in answer to the challenge of the response before,
signed with the key of the contract; if it settles on paying otherwise, no contract is presented and
leave is only asked for without identifier, challenge and signature. -/
theorem charging_follows_leave :
    let passages := passages equipment cancelAt replies 0 (Step.first session.context) session
    let run := start equipment cancelAt replies session
    run.sent = passages.map Passage.sending ∧
      (∀ front passage back, passages = front ++ passage :: back →
        passage.step.exchange ∈ Exchange.charging →
          ∃ earlier ∈ front, earlier.GivesLeave run) ∧
      (run.session.context.paymentOption = some .contract →
        ∀ front passage back, passages = front ++ passage :: back →
          passage.step.exchange = .authorization →
          (∀ earlier ∈ front, earlier.step.exchange ≠ .authorization) →
            ∃ before presents content, front = before ++ [presents] ∧
              presents.accepted? = some (.paymentDetails content) ∧
              passage.step.Answers equipment.credentials passage.session.onboard content ∧
              ∀ suite directory, equipment.credentials = Directory.credentials suite directory →
                ∃ key,
                  (directory passage.session.onboard).loadKey suite .contractLeaf = .ok key ∧
                  passage.step.signature =
                    some (Signature.create suite [content.signedAnswer] key)) ∧
      (run.session.context.paymentOption = some .external → ∀ passage ∈ passages,
        passage.step.exchange ≠ .paymentDetails ∧
          (passage.step.exchange = .authorization → passage.step.IsBlank)) := by
  intro passages run
  refine ⟨sent_drive equipment cancelAt replies _ _ session,
    fun front passage back shape isCharging => ?_,
    fun isContract front passage back shape asks isFirst => ?_,
    fun isExternal passage isPassage => ?_⟩
  · exact exists_givesLeave equipment cancelAt replies session shape isCharging
  · obtain ⟨before, presents, content, front_eq, accepted, answers⟩ :=
      exists_answers_of_contract equipment cancelAt replies session isContract shape asks isFirst
    refine ⟨before, presents, content, front_eq, accepted, answers, ?_⟩
    intro suite directory isFiled
    rw [isFiled] at answers
    exact answers.exists_key
  · exact isBlank_of_external equipment cancelAt replies session isExternal isPassage

end Run
end PlugAndCharge
