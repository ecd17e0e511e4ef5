import PlugAndCharge.Pki.Credentials
import PlugAndCharge.Session.Context

/-!
# Turns

A session goes on in turns: the vehicle takes a response and decides on the next request.  A turn
works on the context and on the state of what is on board, and may fail; what it has changed before
a failure stays changed.
-/

namespace PlugAndCharge

/-- A session with the state `ω` of what is on board. -/
structure Session (ω : Type) where
  context : Context
  onboard : ω

/-- What takes part in a session on the vehicle's side. -/
structure Equipment (ω : Type) where
  vehicle : Vehicle ω
  credentials : Credentials ω

/-! ## Steps -/

/-- A request that is to be sent, and how to wait for what comes next. -/
structure Step where
  /-- The exchange whose response is awaited. -/
  awaited : Exchange
  request : Request
  sessionId : SessionId
  signature : Option Signature
  /-- The longest wait. -/
  timeout : Milliseconds
  /-- Whether the request repeats the one before it. -/
  repeated : Bool
  deriving DecidableEq, Repr

namespace Step

/-- A request of a session, with the longest wait that is set for it, after which the response of an
exchange is awaited. -/
def ofRequest (context : Context) (awaited : Exchange) (request : Request) : Step where
  awaited := awaited
  request := request
  sessionId := context.headerId
  signature := none
  timeout := context.timeouts.forExchange request.exchange
  repeated := false

/-- The first step of every session. -/
def first (context : Context) : Step :=
  ofRequest context .sessionSetup (.sessionSetup { evccId := context.evccId })

/-- The exchange that the request opens. -/
def exchange (step : Step) : Exchange := step.request.exchange

/-- The message that is sent. -/
def message (step : Step) : Message where
  header := { sessionId := step.sessionId, signature := step.signature }
  body := .request step.request

/-- A step as a repetition with a longest wait of its own. -/
def asRepetition (step : Step) (timeout : Milliseconds) : Step :=
  { step with repeated := true, timeout }

end Step

/-- How a turn comes out, unless it fails. -/
inductive Outcome where
  | next (step : Step)
  | terminated (reason : StopReason)
  deriving DecidableEq, Repr

/-! ## The parts of a turn -/

/-- A computation on a session that may fail. -/
abbrev Turn (ω α : Type) := EStateM SessionError (Session ω) α

namespace Turn

variable {ω α : Type}

/-- The context. -/
def context : Turn ω Context := fun session => .ok session.context session

/-- Asks what is on board. -/
def ask (question : ω → α) : Turn ω α := fun session => .ok (question session.onboard) session

/-- Changes the context. -/
def update (change : Context → Context) : Turn ω Unit := fun session =>
  .ok () { session with context := change session.context }

/-- Changes the context, unless that fails. -/
def tryUpdate (change : Context → Except SessionError Context) : Turn ω Unit := fun session =>
  match change session.context with
  | .ok context => .ok () { session with context }
  | .error error => .error error session

/-- Works something out from the context. -/
def consult (inspect : Context → Except SessionError α) : Turn ω α := fun session =>
  match inspect session.context with
  | .ok value => .ok value session
  | .error error => .error error session

/-- Changes the context and comes to a result, which may be a failure. -/
def alter (change : Context → Except SessionError α × Context) : Turn ω α := fun session =>
  match change session.context with
  | (.ok value, context) => .ok value { session with context }
  | (.error error, context) => .error error { session with context }

/-- Ends the session. -/
def fail (error : SessionError) : Turn ω α := fun session => .error error session

/-- Has the vehicle do something that it may be unable to do. -/
def act (action : ω → Except VehicleError α × ω) : Turn ω α := fun session =>
  match action session.onboard with
  | (.ok value, onboard) => .ok value { session with onboard }
  | (.error error, onboard) => .error (.vehicle error) { session with onboard }

/-- Has the vehicle choose. -/
def choose (action : ω → α × ω) : Turn ω α := fun session =>
  let (value, onboard) := action session.onboard
  .ok value { session with onboard }

/-- Uses certificates or keys. -/
def useCredentials (activity : Activity) (use : ω → Except PkiError α) : Turn ω α := fun session =>
  match use session.onboard with
  | .ok value => .ok value session
  | .error error => .error (.ofPki activity error) session

/-- Sends a request and awaits the response of an exchange. -/
def send (awaited : Exchange) (request : Request) : Turn ω Step := fun session =>
  .ok (Step.ofRequest session.context awaited request) session

/-- The id of the one signed element of a request. -/
def signedElementId : String := "id1"

/-- Sends a request that the owner of a key has signed, and awaits the response of an exchange. -/
def sendSigned [Json.Wire α] (credentials : Credentials ω) (slot : KeySlot) (content : α)
    (awaited : Exchange) (request : α → Request) : Turn ω Step := do
  let element := SignedElement.ofValue signedElementId content
  let signature ← useCredentials (.signing (request content).exchange) fun state =>
    credentials.sign state [element] slot
  let step ← send awaited (request content)
  return { step with signature := some signature }

end Turn

end PlugAndCharge
