import PlugAndCharge.Session.Outcome
import PlugAndCharge.Time
import PlugAndCharge.Transport.Error
import PlugAndCharge.Vehicle.Basic

/-!
# How a session fails

Every failure ends the session.  A failure is a value that names its cause; `SessionError.message`
is the one place that puts it into words.
-/

namespace PlugAndCharge

/-- What a session was doing with certificates or keys. -/
inductive Activity where
  | loadingProvisioningCertificate
  | loadingRootIds
  | loadingContractChain
  | readingEmaid
  | signing (exchange : Exchange)
  | verifyingInstallation
  | decryptingContractKey
  deriving DecidableEq, Repr

/-- An activity in words. -/
def Activity.text : Activity → String
  | .loadingProvisioningCertificate => "loading OEM provisioning certificate"
  | .loadingRootIds => "loading V2G root certificate ids"
  | .loadingContractChain => "loading contract certificate chain"
  | .readingEmaid => "reading EMAID from contract certificate"
  | .signing exchange => "signing " ++ (Kind.request exchange).name
  | .verifyingInstallation =>
    "verifying " ++ (Kind.response Exchange.certificateInstallation).name
  | .decryptingContractKey => "decrypting contract private key"

/-- Why vehicle and station do not fit. -/
inductive Incompatibility where
  | noChargeService
  | modeNotOffered (mode : EnergyTransferMode)
  | noScheduleSelected
  | receiptWithoutMeter
  deriving DecidableEq, Repr

/-- An incompatibility in words. -/
def Incompatibility.text : Incompatibility → String
  | .noChargeService => "no charge service offered"
  | .modeNotOffered mode => s!"energy transfer mode {mode.name} not offered"
  | .noScheduleSelected => "no SAScheduleTuple selected"
  | .receiptWithoutMeter => "metering receipt required without meter info"

/-- What a session is given only once. -/
inductive Identifier where
  | sessionId
  | evseId
  deriving DecidableEq, Repr

/-- An identifier in words. -/
def Identifier.text : Identifier → String
  | .sessionId => "session_id"
  | .evseId => "evse_id"

/-- Why a session fails. -/
inductive SessionError where
  | unexpectedMessage (expected received : Kind)
  | sessionIdMismatch (expected received : SessionId)
  | rejected (kind : Kind) (code : ResponseCode)
  | alreadyAssigned (identifier : Identifier)
  | incompatible (cause : Incompatibility)
  | crypto (activity : Activity) (error : PkiError)
  | missingResource (path : String)
  | ongoingTimeout (kind : Kind) (elapsed : Milliseconds)
  | responseTimeout (kind : Kind) (timeout : Milliseconds)
  | transport (error : TransportError)
  | vehicle (error : VehicleError)
  | cancelled
  deriving DecidableEq, Repr

namespace SessionError

/-- A failure of an activity.  A file that is not there is a missing resource. -/
def ofPki (activity : Activity) : PkiError → SessionError
  | .file (.notFound path) => .missingResource path
  | error => .crypto activity error

/-- A failure in words. -/
def message : SessionError → String
  | .unexpectedMessage expected received => s!"expected {expected.name}, received {received.name}"
  | .sessionIdMismatch expected received =>
    "session id mismatch: expected " ++ Octets.toUpperHex expected ++ ", received " ++
      Octets.toUpperHex received
  | .rejected kind code => s!"{kind.name} rejected with {code.label}"
  | .alreadyAssigned identifier => s!"{identifier.text} is already assigned"
  | .incompatible cause => s!"incompatible station: {cause.text}"
  | .crypto activity error => s!"{activity.text}: {error.message}"
  | .missingResource path => s!"missing resource {path}"
  | .ongoingTimeout kind elapsed => s!"{kind.name} still ongoing after {elapsed.text}"
  | .responseTimeout kind timeout => s!"no {kind.name} within {timeout.text}"
  | .transport error => s!"transport error: {error.message}"
  | .vehicle error => s!"EV controller error: {error.message}"
  | .cancelled => "session cancelled"

/-- The class of a failure. -/
def failureClass : SessionError → FailureClass
  | .unexpectedMessage _ _ | .sessionIdMismatch _ _ | .rejected _ _ | .alreadyAssigned _ =>
    .protocolMismatch
  | .incompatible _ => .incompatible
  | .crypto _ _ => .crypto
  | .missingResource _ => .missingResource
  | .ongoingTimeout _ _ => .ongoingTimeout
  | .responseTimeout _ _ => .responseTimeout
  | .transport _ => .transport
  | .vehicle _ => .collaborator
  | .cancelled => .cancelled

/-- The name of the kind of a failure. -/
def kind : SessionError → String
  | .unexpectedMessage _ _ => "UnexpectedMessage"
  | .sessionIdMismatch _ _ => "SessionIdMismatch"
  | .rejected _ _ => "Rejected"
  | .alreadyAssigned _ => "AlreadyAssigned"
  | .incompatible _ => "Incompatible"
  | .crypto _ _ => "Crypto"
  | .missingResource _ => "MissingResource"
  | .ongoingTimeout _ _ => "OngoingTimeout"
  | .responseTimeout _ _ => "ResponseTimeout"
  | .transport _ => "Transport"
  | .vehicle _ => "EvController"
  | .cancelled => "Cancelled"

/-- The name of the kind of the fault behind a failure, if there is one. -/
def sourceKind? : SessionError → Option String
  | .crypto _ error => some error.kind
  | .transport error => some error.kind
  | .vehicle error => some error.kind
  | _ => none

end SessionError

namespace StopReason

/-- A session that has ended as planned. -/
def success (reason : String) (peer : Option String) (resume : Option Choices) : StopReason where
  successful := true
  reason := reason
  failureClass := none
  peer := peer
  resume := resume

/-- A session that has failed. -/
def failure (error : SessionError) (peer : Option String) : StopReason where
  successful := false
  reason := error.message
  failureClass := some error.failureClass
  peer := peer
  resume := none

end StopReason

end PlugAndCharge
