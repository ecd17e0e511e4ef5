import PlugAndCharge.Message.Quantity

/-!
# The state of a station

Response codes, the progress of a station's own work, and the status blocks and meter readings that
accompany its responses.
-/

namespace PlugAndCharge

/-- How a station answers a request. -/
inductive ResponseCode where
  | ok
  | okNewSessionEstablished
  | okOldSessionJoined
  | okCertificateExpiresSoon
  | failed
  | failedSequenceError
  | failedServiceIdInvalid
  | failedUnknownSession
  | failedServiceSelectionInvalid
  | failedPaymentSelectionInvalid
  | failedCertificateExpired
  | failedSignatureError
  | failedNoCertificateAvailable
  | failedCertChainError
  | failedChallengeInvalid
  | failedContractCanceled
  | failedWrongChargeParameter
  | failedPowerDeliveryNotApplied
  | failedTariffSelectionInvalid
  | failedChargingProfileInvalid
  | failedMeteringSignatureNotValid
  | failedNoChargeServiceSelected
  | failedWrongEnergyTransferMode
  | failedContactorError
  | failedCertificateNotAllowedAtThisEvse
  | failedCertificateRevoked
  deriving DecidableEq, Repr

namespace ResponseCode

/-- Every response code. -/
def all : List ResponseCode :=
  [.ok, .okNewSessionEstablished, .okOldSessionJoined, .okCertificateExpiresSoon, .failed,
   .failedSequenceError, .failedServiceIdInvalid, .failedUnknownSession,
   .failedServiceSelectionInvalid, .failedPaymentSelectionInvalid, .failedCertificateExpired,
   .failedSignatureError, .failedNoCertificateAvailable, .failedCertChainError,
   .failedChallengeInvalid, .failedContractCanceled, .failedWrongChargeParameter,
   .failedPowerDeliveryNotApplied, .failedTariffSelectionInvalid, .failedChargingProfileInvalid,
   .failedMeteringSignatureNotValid, .failedNoChargeServiceSelected, .failedWrongEnergyTransferMode,
   .failedContactorError, .failedCertificateNotAllowedAtThisEvse, .failedCertificateRevoked]

/-- The name on the wire. -/
def name : ResponseCode → String
  | .ok => "OK"
  | .okNewSessionEstablished => "OK_NewSessionEstablished"
  | .okOldSessionJoined => "OK_OldSessionJoined"
  | .okCertificateExpiresSoon => "OK_CertificateExpiresSoon"
  | .failed => "FAILED"
  | .failedSequenceError => "FAILED_SequenceError"
  | .failedServiceIdInvalid => "FAILED_ServiceIDInvalid"
  | .failedUnknownSession => "FAILED_UnknownSession"
  | .failedServiceSelectionInvalid => "FAILED_ServiceSelectionInvalid"
  | .failedPaymentSelectionInvalid => "FAILED_PaymentSelectionInvalid"
  | .failedCertificateExpired => "FAILED_CertificateExpired"
  | .failedSignatureError => "FAILED_SignatureError"
  | .failedNoCertificateAvailable => "FAILED_NoCertificateAvailable"
  | .failedCertChainError => "FAILED_CertChainError"
  | .failedChallengeInvalid => "FAILED_ChallengeInvalid"
  | .failedContractCanceled => "FAILED_ContractCanceled"
  | .failedWrongChargeParameter => "FAILED_WrongChargeParameter"
  | .failedPowerDeliveryNotApplied => "FAILED_PowerDeliveryNotApplied"
  | .failedTariffSelectionInvalid => "FAILED_TariffSelectionInvalid"
  | .failedChargingProfileInvalid => "FAILED_ChargingProfileInvalid"
  | .failedMeteringSignatureNotValid => "FAILED_MeteringSignatureNotValid"
  | .failedNoChargeServiceSelected => "FAILED_NoChargeServiceSelected"
  | .failedWrongEnergyTransferMode => "FAILED_WrongEnergyTransferMode"
  | .failedContactorError => "FAILED_ContactorError"
  | .failedCertificateNotAllowedAtThisEvse => "FAILED_CertificateNotAllowedAtThisEVSE"
  | .failedCertificateRevoked => "FAILED_CertificateRevoked"

instance : Json.Enumeration ResponseCode := ⟨all, name⟩

end ResponseCode

namespace ResponseCode

/-- Whether the station reports a failure. -/
def isFailure : ResponseCode → Bool
  | .ok | .okNewSessionEstablished | .okOldSessionJoined | .okCertificateExpiresSoon => false
  | _ => true

/-- The name that error messages use: in one word, each part capitalised. -/
def label : ResponseCode → String
  | .ok => "Ok"
  | .okNewSessionEstablished => "OkNewSessionEstablished"
  | .okOldSessionJoined => "OkOldSessionJoined"
  | .okCertificateExpiresSoon => "OkCertificateExpiresSoon"
  | .failed => "Failed"
  | .failedSequenceError => "FailedSequenceError"
  | .failedServiceIdInvalid => "FailedServiceIdInvalid"
  | .failedUnknownSession => "FailedUnknownSession"
  | .failedServiceSelectionInvalid => "FailedServiceSelectionInvalid"
  | .failedPaymentSelectionInvalid => "FailedPaymentSelectionInvalid"
  | .failedCertificateExpired => "FailedCertificateExpired"
  | .failedSignatureError => "FailedSignatureError"
  | .failedNoCertificateAvailable => "FailedNoCertificateAvailable"
  | .failedCertChainError => "FailedCertChainError"
  | .failedChallengeInvalid => "FailedChallengeInvalid"
  | .failedContractCanceled => "FailedContractCanceled"
  | .failedWrongChargeParameter => "FailedWrongChargeParameter"
  | .failedPowerDeliveryNotApplied => "FailedPowerDeliveryNotApplied"
  | .failedTariffSelectionInvalid => "FailedTariffSelectionInvalid"
  | .failedChargingProfileInvalid => "FailedChargingProfileInvalid"
  | .failedMeteringSignatureNotValid => "FailedMeteringSignatureNotValid"
  | .failedNoChargeServiceSelected => "FailedNoChargeServiceSelected"
  | .failedWrongEnergyTransferMode => "FailedWrongEnergyTransferMode"
  | .failedContactorError => "FailedContactorError"
  | .failedCertificateNotAllowedAtThisEvse => "FailedCertificateNotAllowedAtThisEvse"
  | .failedCertificateRevoked => "FailedCertificateRevoked"

end ResponseCode

/-- How far a station is with work that takes longer than one exchange. -/
inductive EvseProcessing where
  | finished
  | ongoing
  | ongoingWaitingForCustomerInteraction
  deriving DecidableEq, Repr

namespace EvseProcessing

/-- Every state of progress. -/
def all : List EvseProcessing :=
  [.finished, .ongoing, .ongoingWaitingForCustomerInteraction]

/-- The name on the wire. -/
def name : EvseProcessing → String
  | .finished => "Finished"
  | .ongoing => "Ongoing"
  | .ongoingWaitingForCustomerInteraction => "Ongoing_WaitingForCustomerInteraction"

instance : Json.Enumeration EvseProcessing := ⟨all, name⟩

end EvseProcessing

/-- Whether the station has done its work. -/
def EvseProcessing.isFinished : EvseProcessing → Bool
  | .finished => true
  | .ongoing | .ongoingWaitingForCustomerInteraction => false

/-- What a station asks of the vehicle while it charges. -/
inductive EvseNotification where
  | none
  | stopCharging
  | renegotiation
  deriving DecidableEq, Repr

namespace EvseNotification

/-- Every notification. -/
def all : List EvseNotification :=
  [.none, .stopCharging, .renegotiation]

/-- The name on the wire. -/
def name : EvseNotification → String
  | .none => "None"
  | .stopCharging => "StopCharging"
  | .renegotiation => "ReNegotiation"

instance : Json.Enumeration EvseNotification := ⟨all, name⟩

end EvseNotification

/-- The isolation that a station measures under direct current. -/
inductive IsolationLevel where
  | invalid
  | valid
  | warning
  | fault
  | noImd
  deriving DecidableEq, Repr

namespace IsolationLevel

/-- Every isolation level. -/
def all : List IsolationLevel :=
  [.invalid, .valid, .warning, .fault, .noImd]

/-- The name on the wire. -/
def name : IsolationLevel → String
  | .invalid => "Invalid"
  | .valid => "Valid"
  | .warning => "Warning"
  | .fault => "Fault"
  | .noImd => "No_IMD"

instance : Json.Enumeration IsolationLevel := ⟨all, name⟩

end IsolationLevel

/-- The state of a station under direct current. -/
inductive DcEvseStatusCode where
  | notReady
  | ready
  | shutdown
  | utilityInterruptEvent
  | isolationMonitoringActive
  | emergencyShutdown
  | malfunction
  deriving DecidableEq, Repr

namespace DcEvseStatusCode

/-- Every station state. -/
def all : List DcEvseStatusCode :=
  [.notReady, .ready, .shutdown, .utilityInterruptEvent, .isolationMonitoringActive,
   .emergencyShutdown, .malfunction]

/-- The name on the wire. -/
def name : DcEvseStatusCode → String
  | .notReady => "EVSE_NotReady"
  | .ready => "EVSE_Ready"
  | .shutdown => "EVSE_Shutdown"
  | .utilityInterruptEvent => "EVSE_UtilityInterruptEvent"
  | .isolationMonitoringActive => "EVSE_IsolationMonitoringActive"
  | .emergencyShutdown => "EVSE_EmergencyShutdown"
  | .malfunction => "EVSE_Malfunction"

instance : Json.Enumeration DcEvseStatusCode := ⟨all, name⟩

end DcEvseStatusCode

/-- The status block of a station under alternating current. -/
structure AcEvseStatus where
  notificationMaxDelay : UInt16
  notification : EvseNotification
  rcd : Bool
  deriving DecidableEq, Repr

instance : Json.Wire AcEvseStatus :=
  Json.recordWire
    (.cons (.required "NotificationMaxDelay") <| .cons (.required "EVSENotification") <|
      .cons (.required "RCD") .nil)
    (fun a => (a.notificationMaxDelay, a.notification, a.rcd, ()))
    (fun (notificationMaxDelay, notification, rcd, _) =>
      { notificationMaxDelay, notification, rcd })

/-- The status block of a station under direct current. -/
structure DcEvseStatus where
  notificationMaxDelay : UInt16
  notification : EvseNotification
  isolationStatus : Option IsolationLevel
  statusCode : DcEvseStatusCode
  deriving DecidableEq, Repr

instance : Json.Wire DcEvseStatus :=
  Json.recordWire
    (.cons (.required "NotificationMaxDelay") <| .cons (.required "EVSENotification") <|
      .cons (.optional "EVSEIsolationStatus") <| .cons (.required "EVSEStatusCode") .nil)
    (fun d => (d.notificationMaxDelay, d.notification, d.isolationStatus, d.statusCode, ()))
    (fun (notificationMaxDelay, notification, isolationStatus, statusCode, _) =>
      { notificationMaxDelay, notification, isolationStatus, statusCode })

/-- A reading of the station's meter. -/
structure MeterInfo where
  meterId : String
  meterReading : Option UInt64
  sigMeterReading : Option Octets
  meterStatus : Option Int16
  tMeter : Option Int64
  deriving DecidableEq, Repr

instance : Json.Wire MeterInfo :=
  Json.recordWire
    (.cons (.required "MeterID") <| .cons (.optional "MeterReading") <|
      .cons (.optional "SigMeterReading") <| .cons (.optional "MeterStatus") <|
      .cons (.optional "TMeter") .nil)
    (fun m => (m.meterId, m.meterReading, m.sigMeterReading, m.meterStatus, m.tMeter, ()))
    (fun (meterId, meterReading, sigMeterReading, meterStatus, tMeter, _) =>
      { meterId, meterReading, sigMeterReading, meterStatus, tMeter })

end PlugAndCharge
