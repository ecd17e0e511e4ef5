import PlugAndCharge.Session.Turn
import Mathlib.Tactic.Common

/-!
# How turns come out

When each part of a turn succeeds, with which value and in which session, and what a turn leaves as
it was even if it fails.  The lemmas named `_eq_ok` take a successful turn apart, those named
`_eq_error` one that fails.
-/

namespace PlugAndCharge
namespace Turn

variable {ω α β γ : Type} {session after : Session ω}

/-! ## Steps that cannot fail -/

@[simp] theorem context_bind (next : Context → Turn ω α) :
    (Turn.context >>= next) session = next session.context session := rfl

@[simp] theorem ask_bind (question : ω → α) (next : α → Turn ω β) :
    (ask question >>= next) session = next (question session.onboard) session := rfl

@[simp] theorem update_bind (change : Context → Context) (next : Unit → Turn ω α) :
    (update change >>= next) session =
      next () { session with context := change session.context } := rfl

@[simp] theorem choose_bind (action : ω → α × ω) (next : α → Turn ω β) :
    (choose action >>= next) session =
      next (action session.onboard).1
        { session with onboard := (action session.onboard).2 } := rfl

@[simp] theorem send_bind (awaited : Exchange) (request : Request) (next : Step → Turn ω α) :
    (send awaited request >>= next) session =
      next (Step.ofRequest session.context awaited request) session := rfl

/-! ## Success -/

@[simp] theorem bind_eq_ok {turn : Turn ω α} {next : α → Turn ω β} {value : β} :
    (turn >>= next) session = .ok value after ↔
      ∃ middle between, turn session = .ok middle between ∧
        next middle between = .ok value after := by
  simp only [bind, EStateM.bind]
  cases turn session <;> simp

@[simp] theorem map_eq_ok {turn : Turn ω α} {change : α → β} {value : β} :
    (change <$> turn) session = .ok value after ↔
      ∃ middle, turn session = .ok middle after ∧ change middle = value := by
  simp only [Functor.map, EStateM.map]
  cases turn session <;> simp
  tauto

@[simp] theorem pure_eq_ok {result value : α} :
    (pure result : Turn ω α) session = .ok value after ↔ after = session ∧ value = result := by
  simp [pure, EStateM.pure, eq_comm, and_comm]

@[simp] theorem ite_eq_ok {condition : Prop} [Decidable condition] {first second : Turn ω α}
    {value : α} :
    (if condition then first else second) session = .ok value after ↔
      condition ∧ first session = .ok value after ∨
        ¬condition ∧ second session = .ok value after := by
  by_cases holds : condition <;> simp [holds]

@[simp] theorem context_eq_ok {value : Context} :
    context session = .ok value after ↔ value = session.context ∧ after = session := by
  simp [context, eq_comm]

@[simp] theorem ask_eq_ok {question : ω → α} {value : α} :
    ask question session = .ok value after ↔
      value = question session.onboard ∧ after = session := by
  simp [ask, eq_comm]

@[simp] theorem update_eq_ok {change : Context → Context} {value : Unit} :
    update change session = .ok value after ↔
      after = { session with context := change session.context } := by
  simp [update, eq_comm]

@[simp] theorem tryUpdate_eq_ok {change : Context → Except SessionError Context} {value : Unit} :
    tryUpdate change session = .ok value after ↔
      ∃ context, change session.context = .ok context ∧ after = { session with context } := by
  unfold tryUpdate
  cases change session.context <;> simp [eq_comm]

@[simp] theorem consult_eq_ok {inspect : Context → Except SessionError α} {value : α} :
    consult inspect session = .ok value after ↔
      inspect session.context = .ok value ∧ after = session := by
  unfold consult
  cases inspect session.context <;> simp [eq_comm]

@[simp] theorem alter_eq_ok {change : Context → Except SessionError α × Context} {value : α} :
    alter change session = .ok value after ↔
      (change session.context).1 = .ok value ∧
        after = { session with context := (change session.context).2 } := by
  unfold alter
  rcases change session.context with ⟨result, context⟩
  cases result <;> simp [eq_comm]

@[simp] theorem fail_eq_ok {error : SessionError} {value : α} :
    fail error session = .ok value after ↔ False := by
  simp [fail]

@[simp] theorem act_eq_ok {action : ω → Except VehicleError α × ω} {value : α} :
    act action session = .ok value after ↔
      (action session.onboard).1 = .ok value ∧
        after = { session with onboard := (action session.onboard).2 } := by
  unfold act
  rcases action session.onboard with ⟨result, onboard⟩
  cases result <;> simp [eq_comm]

@[simp] theorem choose_eq_ok {action : ω → α × ω} {value : α} :
    choose action session = .ok value after ↔
      value = (action session.onboard).1 ∧
        after = { session with onboard := (action session.onboard).2 } := by
  simp [choose, eq_comm]

@[simp] theorem useCredentials_eq_ok {activity : Activity} {use : ω → Except PkiError α}
    {value : α} :
    useCredentials activity use session = .ok value after ↔
      use session.onboard = .ok value ∧ after = session := by
  unfold useCredentials
  cases use session.onboard <;> simp [eq_comm]

@[simp] theorem send_eq_ok {awaited : Exchange} {request : Request} {step : Step} :
    send awaited request session = .ok step after ↔
      after = session ∧ step = Step.ofRequest session.context awaited request := by
  simp [send, eq_comm, and_comm]

@[simp] theorem sendSigned_eq_ok [Json.Wire α] {credentials : Credentials ω} {slot : KeySlot}
    {content : α} {awaited : Exchange} {request : α → Request} {step : Step} :
    sendSigned credentials slot content awaited request session = .ok step after ↔
      ∃ signature,
        credentials.sign session.onboard [SignedElement.ofValue signedElementId content] slot =
            .ok signature ∧
          after = session ∧
          step = { Step.ofRequest session.context awaited (request content) with
            signature := some signature } := by
  simp only [sendSigned, bind_eq_ok, useCredentials_eq_ok, send_bind, pure_eq_ok]
  constructor
  · rintro ⟨signature, _, ⟨signed, rfl⟩, rfl, rfl⟩
    exact ⟨signature, signed, rfl, rfl⟩
  · rintro ⟨signature, signed, rfl, rfl⟩
    exact ⟨signature, after, ⟨signed, rfl⟩, rfl, rfl⟩

/-! ## Failure -/

section Failure

variable {error : SessionError}

theorem bind_eq_error {turn : Turn ω α} {next : α → Turn ω β} :
    (turn >>= next) session = .error error after ↔
      turn session = .error error after ∨
        ∃ middle between, turn session = .ok middle between ∧
          next middle between = .error error after := by
  simp only [bind, EStateM.bind]
  cases turn session <;> simp

theorem map_eq_error {turn : Turn ω α} {change : α → β} :
    (change <$> turn) session = .error error after ↔ turn session = .error error after := by
  simp only [Functor.map, EStateM.map]
  cases turn session <;> simp

theorem consult_eq_error {inspect : Context → Except SessionError α} :
    consult inspect session = .error error after ↔
      inspect session.context = .error error ∧ after = session := by
  unfold consult
  cases inspect session.context <;> simp [eq_comm]

theorem useCredentials_eq_error {activity : Activity} {use : ω → Except PkiError α} :
    useCredentials activity use session = .error error after ↔
      ∃ fault, use session.onboard = .error fault ∧ error = .ofPki activity fault ∧
        after = session := by
  unfold useCredentials
  cases use session.onboard <;> simp [eq_comm]

theorem act_eq_error {action : ω → Except VehicleError α × ω} :
    act action session = .error error after ↔
      ∃ fault, (action session.onboard).1 = .error fault ∧ error = .vehicle fault ∧
        after = { session with onboard := (action session.onboard).2 } := by
  unfold act
  rcases action session.onboard with ⟨result, onboard⟩
  cases result <;> simp [eq_comm]

end Failure

/-! ## What a turn leaves as it was -/

/-- The session that a turn has led to, whether it has succeeded or failed. -/
def sessionOf : EStateM.Result SessionError (Session ω) α → Session ω
  | .ok _ session => session
  | .error _ session => session

@[simp] theorem sessionOf_ok (value : α) (session : Session ω) :
    sessionOf (.ok value session) = session := rfl

@[simp] theorem sessionOf_error (error : SessionError) (session : Session ω) :
    sessionOf (.error error session : EStateM.Result SessionError (Session ω) α) = session := rfl

/-- A turn leaves what `view` shows of the context as it was, even if it fails. -/
def Keeps (view : Context → γ) (turn : Turn ω α) : Prop :=
  ∀ session, view (sessionOf (turn session)).context = view session.context

end Turn
end PlugAndCharge
