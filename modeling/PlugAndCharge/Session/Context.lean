import PlugAndCharge.Configuration.Timeouts
import PlugAndCharge.Session.Error

/-!
# The context of a session

What the vehicle has learnt, chosen and noted in a session.  The identifiers are given once; the
first way to end that is asked for stands.
-/

namespace PlugAndCharge

/-- The record of a session. -/
structure Context where
  /-- The vehicle's identifier. -/
  evccId : Octets
  /-- Whether the connection is protected. -/
  isTls : Bool
  /-- The station. -/
  peer : Option String
  timeouts : Timeouts
  /-- The choices that are still to be resumed. -/
  resume : Option Choices
  sessionId : Option SessionId
  evseId : Option String
  /-- The selected services, none of them twice. -/
  services : List SelectedService
  paymentOption : Option PaymentOption
  energyMode : Option EnergyTransferMode
  /-- Services whose details are still to be asked for, the next one first. -/
  pendingDetails : List ServiceId
  /-- The schedule that the vehicle has chosen. -/
  schedule : Option UInt8
  /-- Whether the power is about to be agreed on anew. -/
  isRenegotiating : Bool
  /-- How the session is to end. -/
  stop : Option SessionEnd
  /-- Since when the station has been working on the present request. -/
  ongoingSince : Option Milliseconds
  /-- When the present request was sent first. -/
  issuedAt : Option Milliseconds
  stopReason : Option StopReason
  deriving DecidableEq, Repr

namespace Context

/-- A session that has not begun. -/
def start (evccId : Octets) (isTls : Bool) (timeouts : Timeouts) (peer : Option String)
    (resume : Option Choices) : Context where
  evccId := evccId
  isTls := isTls
  peer := peer
  timeouts := timeouts
  resume := resume
  sessionId := none
  evseId := none
  services := []
  paymentOption := none
  energyMode := none
  pendingDetails := []
  schedule := none
  isRenegotiating := false
  stop := none
  ongoingSince := none
  issuedAt := none
  stopReason := none

/-! ## Identifiers -/

/-- The identifier for the headers of requests: zeros until one is given. -/
def headerId (context : Context) : SessionId :=
  context.sessionId.getD SessionId.unassigned

/-- Gives the session its identifier. -/
def assignSessionId (context : Context) (sessionId : SessionId) : Except SessionError Context :=
  if context.sessionId.isSome then .error (.alreadyAssigned .sessionId)
  else .ok { context with sessionId := some sessionId }

/-- Names the station's outlet. -/
def assignEvseId (context : Context) (evseId : String) : Except SessionError Context :=
  if context.evseId.isSome then .error (.alreadyAssigned .evseId)
  else .ok { context with evseId := some evseId }

/-! ## Choices -/

/-- Selects a service, unless it already is. -/
def selectService (context : Context) (service : SelectedService) : Context :=
  if context.services.any fun selected => selected.serviceId == service.serviceId then context
  else { context with services := context.services ++ [service] }

/-- Asks for an end.  The first one that is asked for stands. -/
def requestStop (context : Context) (stop : SessionEnd) : Context :=
  { context with stop := context.stop.or (some stop) }

/-- The schedule that the vehicle has chosen. -/
def selectedSchedule (context : Context) : Except SessionError UInt8 :=
  match context.schedule with
  | some schedule => .ok schedule
  | none => .error (.incompatible .noScheduleSelected)

/-- Whether energy is transferred as alternating current. -/
def isAc (context : Context) : Bool :=
  match context.energyMode with
  | some mode => mode.isAc
  | none => false

/-- What a later session may resume with. -/
def choices (context : Context) : Choices where
  paymentOption := context.paymentOption
  energyMode := context.energyMode

/-! ## Time -/

/-- Notes that a request has been sent.  A repetition belongs to the request it repeats. -/
def requestSent (context : Context) (repeated : Bool) (now : Milliseconds) : Context :=
  if repeated then context else { context with ongoingSince := none, issuedAt := some now }

/-- The time since the present request was sent first. -/
def requestAge (context : Context) (now : Milliseconds) : Milliseconds :=
  match context.issuedAt with
  | some issued => now - issued
  | none => 0

/-- Notes that the station is still working on the present request, and returns the longest wait
after a repetition: no longer than `timeout`, and no longer than what is left of the time for the
request and all its repetitions, which counts from when the request was sent first. -/
def noteOngoing (context : Context) (kind : Kind) (timeout now : Milliseconds) :
    Except SessionError Milliseconds × Context :=
  let started := (context.ongoingSince.or context.issuedAt).getD now
  let elapsed := now - started
  let budget := context.timeouts.ongoingBudget
  if budget < elapsed then
    (.error (.ongoingTimeout kind elapsed), { context with ongoingSince := none })
  else (.ok (min timeout (budget - elapsed)), { context with ongoingSince := some started })

/-- Notes that the station has finished its work on the present request. -/
def noteFinished (context : Context) : Context :=
  { context with ongoingSince := none }

end Context

/-! ## Checking responses -/

/-- The response in a message, if it is the awaited one, belongs to the session and is no failure.
Until the session has an identifier, any will do. -/
def Context.validate (context : Context) (awaited : Exchange) (message : Message) :
    Except SessionError Response :=
  match message.body with
  | .request _ => .error (.unexpectedMessage (.response awaited) message.kind)
  | .response response =>
    if response.exchange ≠ awaited then
      .error (.unexpectedMessage (.response awaited) message.kind)
    else if context.sessionId.any fun sessionId => message.header.sessionId != sessionId then
      .error (.sessionIdMismatch context.headerId message.header.sessionId)
    else if response.code.isFailure then .error (.rejected (.response awaited) response.code)
    else .ok response

end PlugAndCharge
