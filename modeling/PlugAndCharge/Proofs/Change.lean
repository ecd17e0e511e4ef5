import PlugAndCharge.Proofs.Reaction

/-!
# Changes of a context

A context changes in a few ways only.  What none of them touches is left as it was by everything
that is put together from them: what the session was begun with, and, but for the offer of services,
what it has settled on.  What is noted once stays noted.
-/

namespace PlugAndCharge

/-- What a session is begun with. -/
structure Context.Terms where
  evccId : Octets
  isTls : Bool
  peer : Option String
  timeouts : Timeouts

/-- What a session is begun with. -/
def Context.terms (context : Context) : Context.Terms where
  evccId := context.evccId
  isTls := context.isTls
  peer := context.peer
  timeouts := context.timeouts

/-- What a session is begun with and what it has settled on. -/
def Context.settlement (context : Context) :
    Context.Terms × Option PaymentOption × Option EnergyTransferMode :=
  (context.terms, context.paymentOption, context.energyMode)

/-! ## Changes -/

/-- A single change of a context while the response of an exchange is awaited.  Identifiers are
given during the setup only, the session is settled by the offer of services only, and a schedule is
chosen only when schedules are on offer. -/
inductive Context.Change (awaited : Exchange) (before : Context) : Context → Prop where
  | sessionId (sessionId : SessionId) (isSetup : awaited = .sessionSetup)
      (unset : before.sessionId = none) :
      Change awaited before { before with sessionId := some sessionId }
  | evseId (evseId : String) (isSetup : awaited = .sessionSetup) (unset : before.evseId = none) :
      Change awaited before { before with evseId := some evseId }
  | resume (isOffer : awaited = .serviceDiscovery) :
      Change awaited before { before with resume := none }
  | settle (paymentOption : PaymentOption) (mode : EnergyTransferMode) (serviceId : ServiceId)
      (isOffer : awaited = .serviceDiscovery) :
      Change awaited before (before.settle paymentOption mode serviceId)
  | selectWithDetails (serviceId : ServiceId) :
      Change awaited before (before.selectWithDetails serviceId)
  | pendingDetails (pendingDetails : List ServiceId) :
      Change awaited before { before with pendingDetails }
  | ongoingSince (ongoingSince : Option Milliseconds) :
      Change awaited before { before with ongoingSince }
  | schedule (scheduleId : UInt8) (isAgreement : awaited = .chargeParameterDiscovery) :
      Change awaited before { before with schedule := some scheduleId }
  | isRenegotiating (isRenegotiating : Bool) :
      Change awaited before { before with isRenegotiating }
  | stop (stop : SessionEnd) : Change awaited before (before.requestStop stop)
  | stopReason (reason : StopReason) :
      Change awaited before { before with stopReason := some reason }

/-- What is noted of a session once stays noted: its identifiers and how it is to end.  A schedule
may be replaced, but not be taken back. -/
structure Context.Lasts (before after : Context) : Prop where
  sessionId : ∀ sessionId ∈ before.sessionId, after.sessionId = some sessionId
  evseId : ∀ evseId ∈ before.evseId, after.evseId = some evseId
  stop : ∀ stop ∈ before.stop, after.stop = some stop
  schedule : before.schedule.isSome = true → after.schedule.isSome = true

namespace Context

theorem Lasts.refl (context : Context) : context.Lasts context where
  sessionId _ isSome := isSome
  evseId _ isSome := isSome
  stop _ isSome := isSome
  schedule isSome := isSome

theorem Lasts.trans {first second third : Context} (earlier : first.Lasts second)
    (later : second.Lasts third) : first.Lasts third where
  sessionId _ isSome := later.sessionId _ (earlier.sessionId _ isSome)
  evseId _ isSome := later.evseId _ (earlier.evseId _ isSome)
  stop _ isSome := later.stop _ (earlier.stop _ isSome)
  schedule isSome := later.schedule (earlier.schedule isSome)

/-- What does not depend on the time is left as it is by sending a request. -/
theorem view_requestSent {γ : Type} (view : Context → γ)
    (timeless : ∀ context ongoingSince issuedAt,
      view { context with ongoingSince, issuedAt } = view context)
    (context : Context) (repeated : Bool) (now : Milliseconds) :
    view (context.requestSent repeated now) = view context := by
  unfold requestSent
  split
  · rfl
  · exact timeless context none (some now)

/-- Sending a request leaves everything as it was but what is noted about the time. -/
theorem Lasts.requestSent (context : Context) (repeated : Bool) (now : Milliseconds) :
    context.Lasts (context.requestSent repeated now) := by
  cases repeated with
  | true => exact Lasts.refl context
  | false => exact { Lasts.refl context with }

namespace Change

variable {awaited : Exchange} {before after : Context}

theorem settlement_eq (change : Change awaited before after)
    (notOffer : awaited ≠ .serviceDiscovery) : after.settlement = before.settlement := by
  cases change with
  | resume isOffer => exact absurd isOffer notOffer
  | settle _ _ _ isOffer => exact absurd isOffer notOffer
  | selectWithDetails serviceId =>
      rw [Context.selectWithDetails, selectService_eq]
      rfl
  | _ => rfl

theorem terms_eq (change : Change awaited before after) : after.terms = before.terms := by
  cases change with
  | settle _ _ _ _ =>
      rw [Context.settle, selectService_eq]
      rfl
  | selectWithDetails _ =>
      rw [Context.selectWithDetails, selectService_eq]
      rfl
  | _ => rfl

theorem schedule_eq (change : Change awaited before after)
    (notAgreement : awaited ≠ .chargeParameterDiscovery) : after.schedule = before.schedule := by
  cases change with
  | schedule _ isAgreement => exact absurd isAgreement notAgreement
  | settle _ _ _ _ =>
      rw [Context.settle, selectService_eq]
  | selectWithDetails _ =>
      rw [Context.selectWithDetails, selectService_eq]
  | _ => rfl

theorem lasts (change : Change awaited before after) : before.Lasts after := by
  cases change with
  | sessionId _ _ unset => exact { Lasts.refl before with sessionId := by simp [unset] }
  | evseId _ _ unset => exact { Lasts.refl before with evseId := by simp [unset] }
  | settle _ _ _ _ =>
      rw [Context.settle, selectService_eq]
      exact { Lasts.refl before with }
  | selectWithDetails _ =>
      rw [Context.selectWithDetails, selectService_eq]
      exact { Lasts.refl before with }
  | schedule _ _ => exact { Lasts.refl before with schedule := fun _ => rfl }
  | stop _ =>
      refine { Lasts.refl before with stop := fun stop isStop => ?_ }
      rw [Option.mem_def] at isStop
      rw [requestStop, isStop]
      rfl
  | _ => exact { Lasts.refl before with }

end Change
end Context

/-! ## Failures -/

/-- A failure of the vehicle to keep its own record: what is given only once is given again, or a
schedule is needed that has not been chosen. -/
def SessionError.isLapse : SessionError → Bool
  | .alreadyAssigned _ => true
  | .incompatible .noScheduleSelected => true
  | _ => false

/-- A failure before the vehicle looks at what a response says. -/
def SessionError.precedesResponse : SessionError → Bool
  | .unexpectedMessage _ _ | .sessionIdMismatch _ _ | .rejected _ _ => true
  | .responseTimeout _ _ | .transport _ | .cancelled => true
  | _ => false

theorem SessionError.isLapse_of_precedesResponse {error : SessionError}
    (precedes : error.precedesResponse = true) : error.isLapse = false := by
  revert precedes
  cases error <;> simp [precedesResponse, isLapse]

@[simp] theorem SessionError.isLapse_ofPki (activity : Activity) (error : PkiError) :
    (ofPki activity error).isLapse = false := by
  unfold ofPki
  split <;> rfl

/-- Whether an exchange belongs to the rounds of charging, after which the vehicle may change the
power on the chosen schedule. -/
def Exchange.isRound : Exchange → Bool
  | .chargingStatus | .currentDemand | .meteringReceipt => true
  | _ => false

namespace Context

variable {context : Context} {awaited : Exchange}

theorem change_noteOngoing {kind : Kind} {timeout now : Milliseconds} :
    context.Change awaited (context.noteOngoing kind timeout now).2 := by
  unfold noteOngoing
  dsimp only
  split <;> exact .ongoingSince _

/-- That the station takes too long is no lapse of the vehicle. -/
theorem isLapse_of_noteOngoing {kind : Kind} {timeout now : Milliseconds} {error : SessionError}
    (late : (context.noteOngoing kind timeout now).1 = .error error) : error.isLapse = false := by
  unfold noteOngoing at late
  grind [SessionError.isLapse]

theorem precedesResponse_of_validate {message : Message} {error : SessionError}
    (refused : context.validate awaited message = .error error) :
    error.precedesResponse = true := by
  unfold validate at refused
  grind [SessionError.precedesResponse]

end Context

end PlugAndCharge
