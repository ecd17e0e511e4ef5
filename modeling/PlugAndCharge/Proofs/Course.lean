import Mathlib.Computability.Language
import PlugAndCharge.Message.Envelope

/-!
# The course of a session

The language of the requests of a session, as a regular expression over moves.  A move may be
followed by the moves in `Move.successors` only; `Course.mem_continuation_of_isChain` and
`Course.exists_append_mem_continuation` turn that local rule into membership in the language and in
its prefixes.
-/

namespace PlugAndCharge

open Computability

/-- What a request does in the course of a session. -/
inductive Move where
  | setUp
  | discover
  | askForDetails
  | select
  | install
  | present
  | authorize
  | offerParameters
  | power (progress : ChargeProgress)
  /-- A round of charging, under alternating current or else under direct current. -/
  | round (isAc : Bool)
  | giveReceipt
  | stop
  deriving DecidableEq, Repr

/-- What a request does in the course of a session. -/
def Request.move : Request → Move
  | .sessionSetup _ => .setUp
  | .serviceDiscovery _ => .discover
  | .serviceDetail _ => .askForDetails
  | .paymentServiceSelection _ => .select
  | .certificateInstallation _ => .install
  | .paymentDetails _ => .present
  | .authorization _ => .authorize
  | .chargeParameterDiscovery _ => .offerParameters
  | .powerDelivery content => .power content.chargeProgress
  | .chargingStatus _ => .round true
  | .currentDemand _ => .round false
  | .meteringReceipt _ => .giveReceipt
  | .sessionStop _ => .stop

/-- The moves that may follow a move in a session under the given kind of current. -/
def Move.successors (isAc : Bool) : Move → List Move
  | .setUp => [.discover]
  | .discover => [.askForDetails, .select]
  | .askForDetails => [.select]
  | .select => [.install, .present, .authorize]
  | .install => [.present]
  | .present => [.authorize]
  | .authorize => [.authorize, .offerParameters]
  | .offerParameters => [.offerParameters, .power .start]
  | .power .start => [.round isAc]
  | .power .renegotiate => [.offerParameters]
  | .power .stop => [.stop]
  | .round _ => [.giveReceipt, .round isAc, .power .renegotiate, .power .stop]
  | .giveReceipt => [.round isAc, .power .renegotiate, .power .stop]
  | .stop => []

/-- The moves that a move may follow. -/
def Move.predecessors : Move → List Move
  | .setUp => []
  | .discover => [.setUp]
  | .askForDetails => [.discover]
  | .select => [.discover, .askForDetails]
  | .install => [.select]
  | .present => [.select, .install]
  | .authorize => [.select, .present, .authorize]
  | .offerParameters => [.authorize, .offerParameters, .power .renegotiate]
  | .power .start => [.offerParameters]
  | .power .renegotiate | .power .stop => [.round true, .round false, .giveReceipt]
  | .round _ => [.power .start, .round true, .round false, .giveReceipt]
  | .giveReceipt => [.round true, .round false]
  | .stop => [.power .stop]

theorem Move.mem_predecessors {move next : Move} {isAc : Bool}
    (follows : next ∈ move.successors isAc) : move ∈ next.predecessors := by
  have allFollow : ∀ next ∈ move.successors isAc, move ∈ next.predecessors := by
    cases move with
    | power progress => cases progress <;> cases isAc <;> decide
    | round current => cases current <;> cases isAc <;> decide
    | _ => cases isAc <;> decide
  exact allFollow next follows

/-! ## The language -/

namespace Course

/-- A single move. -/
def one (move : Move) : Language Move := {[move]}

/-- A move, once or more. -/
def many (move : Move) : Language Move := one move * (one move)∗

/-- Words of a language, or nothing. -/
def optional (words : Language Move) : Language Move := 1 + words

/-- A round of charging with the receipt that may follow it. -/
def chargingRound (isAc : Bool) : Language Move :=
  one (.round isAc) * optional (one .giveReceipt)

/-- Agreeing on the power and charging, up to what ends that. -/
def agreement (isAc : Bool) (ending : ChargeProgress) : Language Move :=
  many .offerParameters * one (.power .start) *
    (chargingRound isAc * (chargingRound isAc)∗) * one (.power ending)

/-- Presenting a contract, which may have to be installed first. -/
def contract : Language Move := optional (one .install) * one .present

/-- Every agreement on the power, up to the end of the session. -/
def charging (isAc : Bool) : Language Move :=
  (agreement isAc .renegotiate)∗ * (agreement isAc .stop * one .stop)

/-- The whole of a session. -/
def whole (isAc : Bool) : Language Move :=
  one .setUp * one .discover * optional (one .askForDetails) * one .select * optional contract *
    many .authorize * charging isAc

/-! ## Continuations -/

variable {isAc : Bool} {move next : Move} {word : List Move} {words : Language Move}

@[simp] theorem mem_one : word ∈ one move ↔ word = [move] := Iff.rfl

@[simp] theorem cons_mem_one_mul : move :: word ∈ one move * words ↔ word ∈ words := by
  simp [Language.mem_mul]

theorem many_mul (move : Move) (words : Language Move) :
    many move * words = one move * (words + many move * words) := by
  calc
    many move * words = one move * ((one move)∗ * words) := mul_assoc _ _ _
    _ = one move * ((1 + one move * (one move)∗) * words) := by rw [one_add_mul_kstar]
    _ = one move * (words + many move * words) := by rw [add_mul, one_mul, many]

theorem kstar_mul (repeated words : Language Move) :
    repeated∗ * words = words + repeated * (repeated∗ * words) := by
  calc
    repeated∗ * words = (1 + repeated * repeated∗) * words := by rw [one_add_mul_kstar]
    _ = words + repeated * (repeated∗ * words) := by rw [add_mul, one_mul, mul_assoc]

theorem optional_mul (first words : Language Move) :
    optional first * words = words + first * words := by
  rw [optional, add_mul, one_mul]

/-- What may follow the charging rounds of an agreement. -/
def ending (isAc : Bool) : Language Move :=
  one (.power .renegotiate) * charging isAc + one (.power .stop) * one .stop

/-- What may follow a charging round with its receipt. -/
def moreRounds (isAc : Bool) : Language Move := (chargingRound isAc)∗ * ending isAc

/-- An agreement ends in another one or in the end of the session. -/
theorem charging_eq (isAc : Bool) :
    charging isAc =
      many .offerParameters * (one (.power .start) * (chargingRound isAc * moreRounds isAc)) := by
  calc
    charging isAc =
        agreement isAc .stop * one .stop + agreement isAc .renegotiate * charging isAc :=
      kstar_mul _ _
    _ = many .offerParameters *
          (one (.power .start) * (chargingRound isAc * moreRounds isAc)) := by
      simp only [agreement, moreRounds, ending, mul_assoc, mul_add]
      exact add_comm _ _

theorem moreRounds_eq (isAc : Bool) :
    moreRounds isAc = ending isAc + chargingRound isAc * moreRounds isAc :=
  kstar_mul _ _

/-- What may follow the selection of a way to pay. -/
def authorization (isAc : Bool) : Language Move := many .authorize * charging isAc

/-- The words that begin with a move and complete a session. -/
def continuation (isAc : Bool) : Move → Language Move
  | .setUp => whole isAc
  | .discover =>
    one .discover *
      (optional (one .askForDetails) * (one .select * (optional contract * authorization isAc)))
  | .askForDetails =>
    one .askForDetails * (one .select * (optional contract * authorization isAc))
  | .select => one .select * (optional contract * authorization isAc)
  | .install => one .install * (one .present * authorization isAc)
  | .present => one .present * authorization isAc
  | .authorize => authorization isAc
  | .offerParameters => charging isAc
  | .power .start => one (.power .start) * (chargingRound isAc * moreRounds isAc)
  | .power .renegotiate => one (.power .renegotiate) * charging isAc
  | .power .stop => one (.power .stop) * one .stop
  | .round current =>
    one (.round current) * (optional (one .giveReceipt) * moreRounds isAc)
  | .giveReceipt => one .giveReceipt * moreRounds isAc
  | .stop => one .stop

theorem continuation_round (isAc : Bool) :
    continuation isAc (.round isAc) = chargingRound isAc * moreRounds isAc :=
  (mul_assoc _ _ _).symm

/-- After a receipt there may be more rounds, or what ends an agreement. -/
private theorem mem_moreRounds (follows : next ∈ Move.giveReceipt.successors isAc)
    (member : word ∈ continuation isAc next) : word ∈ moreRounds isAc := by
  rw [moreRounds_eq, ending, Language.mem_add, Language.mem_add]
  obtain rfl | rfl | rfl :
      next = .round isAc ∨ next = .power .renegotiate ∨ next = .power .stop := by
    simpa [Move.successors] using follows
  · exact .inr (continuation_round isAc ▸ member)
  · exact .inl (.inl member)
  · exact .inl (.inr member)

/-- A move can be put in front of every word that begins with a successor of it. -/
theorem cons_mem_continuation (follows : next ∈ move.successors isAc)
    (member : word ∈ continuation isAc next) : move :: word ∈ continuation isAc move := by
  match move with
  | .setUp =>
      obtain rfl : next = .discover := by simpa [Move.successors] using follows
      simpa [continuation, whole, authorization, mul_assoc] using member
  | .discover =>
      rw [continuation, cons_mem_one_mul, optional_mul, Language.mem_add]
      obtain rfl | rfl : next = .askForDetails ∨ next = .select := by
        simpa [Move.successors] using follows
      · exact .inr member
      · exact .inl member
  | .askForDetails =>
      obtain rfl : next = .select := by simpa [Move.successors] using follows
      rwa [continuation, cons_mem_one_mul]
  | .select =>
      rw [continuation, cons_mem_one_mul, optional_mul, contract, mul_assoc, optional_mul,
        Language.mem_add, Language.mem_add]
      obtain rfl | rfl | rfl : next = .install ∨ next = .present ∨ next = .authorize := by
        simpa [Move.successors] using follows
      · exact .inr (.inr member)
      · exact .inr (.inl member)
      · exact .inl member
  | .install =>
      obtain rfl : next = .present := by simpa [Move.successors] using follows
      rwa [continuation, cons_mem_one_mul]
  | .present =>
      obtain rfl : next = .authorize := by simpa [Move.successors] using follows
      rwa [continuation, cons_mem_one_mul]
  | .authorize =>
      rw [continuation, authorization, many_mul, cons_mem_one_mul, Language.mem_add]
      obtain rfl | rfl : next = .authorize ∨ next = .offerParameters := by
        simpa [Move.successors] using follows
      · exact .inr member
      · exact .inl member
  | .offerParameters =>
      rw [continuation, charging_eq, many_mul, cons_mem_one_mul, Language.mem_add]
      obtain rfl | rfl : next = .offerParameters ∨ next = .power .start := by
        simpa [Move.successors] using follows
      · exact .inr (charging_eq isAc ▸ member)
      · exact .inl member
  | .power .start =>
      obtain rfl : next = .round isAc := by simpa [Move.successors] using follows
      rwa [continuation, cons_mem_one_mul, ← continuation_round]
  | .power .renegotiate =>
      obtain rfl : next = .offerParameters := by simpa [Move.successors] using follows
      rwa [continuation, cons_mem_one_mul]
  | .power .stop =>
      obtain rfl : next = .stop := by simpa [Move.successors] using follows
      rwa [continuation, cons_mem_one_mul]
  | .round current =>
      rw [continuation, cons_mem_one_mul, optional_mul, Language.mem_add]
      obtain rfl | rest : next = .giveReceipt ∨ next ∈ Move.giveReceipt.successors isAc := by
        simpa [Move.successors] using follows
      · exact .inr member
      · exact .inl (mem_moreRounds rest member)
  | .giveReceipt =>
      rw [continuation, cons_mem_one_mul]
      exact mem_moreRounds follows member

/-- Every move begins some word. -/
theorem exists_cons_mem_continuation (isAc : Bool) (move : Move) :
    ∃ word, move :: word ∈ continuation isAc move := by
  have lead (move next : Move) (follows : next ∈ move.successors isAc)
      (reached : ∃ word, next :: word ∈ continuation isAc next) :
      ∃ word, move :: word ∈ continuation isAc move :=
    reached.elim fun word member => ⟨next :: word, cons_mem_continuation follows member⟩
  have stop : ∃ word, Move.stop :: word ∈ continuation isAc .stop := ⟨[], rfl⟩
  have powerStop := lead (.power .stop) _ (by simp [Move.successors]) stop
  have round (current : Bool) := lead (.round current) _ (by simp [Move.successors]) powerStop
  have powerStart := lead (.power .start) _ (by simp [Move.successors]) (round isAc)
  have offer := lead .offerParameters _ (by simp [Move.successors]) powerStart
  have authorize := lead .authorize _ (by simp [Move.successors]) offer
  have present := lead .present _ (by simp [Move.successors]) authorize
  have select := lead .select _ (by simp [Move.successors]) authorize
  have discover := lead .discover _ (by simp [Move.successors]) select
  match move with
  | .setUp => exact lead _ _ (by simp [Move.successors]) discover
  | .discover => exact discover
  | .askForDetails => exact lead _ _ (by simp [Move.successors]) select
  | .select => exact select
  | .install => exact lead _ _ (by simp [Move.successors]) present
  | .present => exact present
  | .authorize => exact authorize
  | .offerParameters => exact offer
  | .power .start => exact powerStart
  | .power .renegotiate => exact lead _ _ (by simp [Move.successors]) offer
  | .power .stop => exact powerStop
  | .round current => exact round current
  | .giveReceipt => exact lead _ _ (by simp [Move.successors]) powerStop
  | .stop => exact stop

/-- Moves that follow each other as they may can be completed to a word. -/
theorem exists_append_mem_continuation {moves : List Move}
    (chain : (move :: moves).IsChain fun move next => next ∈ move.successors isAc) :
    ∃ rest, move :: moves ++ rest ∈ continuation isAc move := by
  induction moves generalizing move with
  | nil => exact exists_cons_mem_continuation isAc move
  | cons next moves ih =>
      obtain ⟨follows, chain⟩ := List.isChain_cons_cons.mp chain
      obtain ⟨rest, member⟩ := ih chain
      exact ⟨rest, cons_mem_continuation follows member⟩

/-- Moves that follow each other as they may, up to the last one of a session, are a word. -/
theorem mem_continuation_of_isChain {moves : List Move}
    (chain : (move :: moves).IsChain fun move next => next ∈ move.successors isAc)
    (ends : (move :: moves).getLast? = some .stop) :
    move :: moves ∈ continuation isAc move := by
  induction moves generalizing move with
  | nil =>
      obtain rfl : move = .stop := by simpa using ends
      exact mem_one.mpr rfl
  | cons next moves ih =>
      obtain ⟨follows, chain⟩ := List.isChain_cons_cons.mp chain
      exact cons_mem_continuation follows (ih chain (by simpa using ends))

end Course
end PlugAndCharge
