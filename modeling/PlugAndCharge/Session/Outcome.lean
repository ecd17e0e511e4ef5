import PlugAndCharge.Message.Service

/-!
# How a session ends

The reason for the end of a session, and the choices that a paused session hands on to the one that
resumes it.
-/

namespace PlugAndCharge

/-- Choices of a paused session. -/
structure Choices where
  paymentOption : Option PaymentOption
  energyMode : Option EnergyTransferMode
  deriving DecidableEq, Repr

/-- No choices. -/
def Choices.none : Choices where
  paymentOption := Option.none
  energyMode := Option.none

instance : Json.Wire Choices :=
  Json.recordWire
    (.cons (.omissible "auth_option") <| .cons (.omissible "energy_mode") .nil)
    (fun c => (c.paymentOption, c.energyMode, ()))
    (fun (paymentOption, energyMode, _) => { paymentOption, energyMode })

/-- The class of a failure. -/
inductive FailureClass where
  | protocolMismatch
  | incompatible
  | crypto
  | ongoingTimeout
  | responseTimeout
  | missingResource
  | transport
  | collaborator
  | cancelled
  deriving DecidableEq, Repr

namespace FailureClass

/-- Every class. -/
def all : List FailureClass :=
  [.protocolMismatch, .incompatible, .crypto, .ongoingTimeout, .responseTimeout, .missingResource,
   .transport, .collaborator, .cancelled]

/-- The name on the wire. -/
def name : FailureClass → String
  | .protocolMismatch => "ProtocolMismatch"
  | .incompatible => "Incompatible"
  | .crypto => "Crypto"
  | .ongoingTimeout => "OngoingTimeout"
  | .responseTimeout => "ResponseTimeout"
  | .missingResource => "MissingResource"
  | .transport => "Transport"
  | .collaborator => "Collaborator"
  | .cancelled => "Cancelled"

instance : Json.Enumeration FailureClass := ⟨all, name⟩

end FailureClass

/-- Why a session ended. -/
structure StopReason where
  successful : Bool
  reason : String
  /-- The class of the failure, if it is one. -/
  failureClass : Option FailureClass
  /-- The station. -/
  peer : Option String
  /-- What to resume with, if the session is paused. -/
  resume : Option Choices
  deriving DecidableEq, Repr

instance : Json.Wire StopReason :=
  Json.recordWire
    (.cons (.required "successful") <| .cons (.required "reason") <|
      .cons (.omissible "class") <| .cons (.omissible "peer") <| .cons (.omissible "resume") .nil)
    (fun s => (s.successful, s.reason, s.failureClass, s.peer, s.resume, ()))
    (fun (successful, reason, failureClass, peer, resume, _) =>
      { successful, reason, failureClass, peer, resume })

/-- A reason in words. -/
def StopReason.text (stop : StopReason) : String :=
  stop.reason ++ (if stop.successful then " (ok)" else " (failed)") ++
    match stop.peer with
    | some peer => " with " ++ peer
    | none => ""

end PlugAndCharge
