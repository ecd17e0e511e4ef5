import PlugAndCharge.Configuration.Basic
import PlugAndCharge.Session.Protocol

/-!
# Runs

A whole session on a clock: one request at a time is sent, and its response waited for.  A run is a
function of what becomes of each request, so it can be reasoned about for every station and every
fault of the connection to it.
-/

namespace PlugAndCharge

/-- What becomes of a request. -/
inductive Reply where
  /-- It cannot be sent. -/
  | unsent (fault : TransportError)
  /-- It is sent, and while its response is awaited something arrives: a message, or a fault of the
  connection. -/
  | arrival (received : Except TransportError Message) (delay : Milliseconds)
  /-- It is sent, and nothing arrives. -/
  | silence

namespace Reply

/-- The station closes the connection. -/
def close (delay : Milliseconds) : Reply := .arrival (.error .closed) delay

/-- What becomes of the next request.  A station with no replies left closes the connection. -/
def next (replies : List Reply) : Reply := replies.headD (close 0)

/-- Why the request cannot be sent, if it cannot. -/
def fault? : Reply → Option TransportError
  | .unsent fault => some fault
  | .arrival _ _ | .silence => none

/-- When the wait ends by what arrives, if anything does. -/
def delay? : Reply → Option Milliseconds
  | .arrival _ delay => some delay
  | .unsent _ | .silence => none

/-- What the vehicle receives. -/
def received : Reply → Except TransportError Message
  | .arrival received _ => received
  | .unsent fault => .error fault
  | .silence => .error .closed

end Reply

/-! ## Waiting -/

/-- When a wait that begins at `start` ends, and whether it ends with an arrival.  An arrival at the
last instant still counts.  A cancellation counts if it comes before anything else or has come
before the wait. -/
def endOfWait (awaited : Exchange) (start timeout : Milliseconds) (cancelAt : Option Milliseconds)
    (arrival : Option Milliseconds) : Milliseconds × Except SessionError Unit :=
  let (instant, ended) :=
    if arrival.any (· ≤ timeout) then (start + arrival.getD timeout, .ok ())
    else (start + timeout, .error (.responseTimeout (.response awaited) timeout))
  match cancelAt with
  | some cancelled =>
    if cancelled < instant ∨ cancelled ≤ start then (max start cancelled, .error .cancelled)
    else (instant, ended)
  | none => (instant, ended)

/-- When a wait ends, and with which message. -/
def await (awaited : Exchange) (start timeout : Milliseconds) (cancelAt : Option Milliseconds)
    (reply : Reply) : Milliseconds × Except SessionError Message :=
  let (instant, ended) := endOfWait awaited start timeout cancelAt reply.delay?
  (instant, ended.bind fun _ => reply.received.mapError .transport)

/-! ## Running -/

/-- A session that has come to its end. -/
structure Run (ω : Type) where
  /-- The requests that were sent, each with its instant. -/
  sent : List (Milliseconds × Message)
  finish : Milliseconds
  result : Except SessionError StopReason
  session : Session ω

namespace Run

variable {ω : Type}

/-- A run that fails without sending anything more.  The failure goes into the context. -/
def fail (finish : Milliseconds) (error : SessionError) (session : Session ω) : Run ω where
  sent := []
  finish := finish
  result := .error error
  session :=
    { session with
      context :=
        { session.context with
          stopReason := some (StopReason.failure error session.context.peer) } }

/-- A run that has come to its planned end. -/
def succeed (finish : Milliseconds) (reason : StopReason) (session : Session ω) : Run ω where
  sent := []
  finish := finish
  result := .ok reason
  session := session

/-- A run before which a request was sent. -/
def after (instant : Milliseconds) (message : Message) (run : Run ω) : Run ω :=
  { run with sent := (instant, message) :: run.sent }

/-- Sends a request, waits and goes on with what follows from the response.  A request that cannot
be sent leaves no trace in the context but the failure. -/
def drive (equipment : Equipment ω) (cancelAt : Option Milliseconds) (replies : List Reply)
    (now : Milliseconds) (step : Step) (session : Session ω) : Run ω :=
  match (Reply.next replies).fault? with
  | some fault => fail now (.transport fault) session
  | none =>
    let session :=
      { session with context := session.context.requestSent step.repeated now }
    let (instant, received) := await step.awaited now step.timeout cancelAt (Reply.next replies)
    after now step.message <|
      match received with
      | .error error => fail instant error session
      | .ok message =>
        match Turn.process equipment instant step.awaited message session with
        | .error error session => fail instant error session
        | .ok (.terminated reason) session => succeed instant reason session
        | .ok (.next next) session =>
          match replies with
          | [] => fail instant (.transport .closed) session
          | _ :: replies => drive equipment cancelAt replies instant next session

/-- Runs a session from its first request on, with a clock that starts at zero. -/
def start (equipment : Equipment ω) (cancelAt : Option Milliseconds) (replies : List Reply)
    (session : Session ω) : Run ω :=
  drive equipment cancelAt replies 0 (Step.first session.context) session

/-- Runs a session with the settings of a configuration. -/
def ofConfiguration (equipment : Equipment ω) (configuration : Configuration) (isTls : Bool)
    (peer : String) (cancelAt : Option Milliseconds) (replies : List Reply) (onboard : ω) :
    Except ConfigurationError (Run ω) := do
  let evccId ← configuration.evccIdOctets
  let context :=
    Context.start evccId isTls configuration.timeouts (some peer) configuration.resume
  return start equipment cancelAt replies { context, onboard }

end Run

end PlugAndCharge
