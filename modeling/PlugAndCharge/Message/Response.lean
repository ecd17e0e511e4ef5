import PlugAndCharge.Message.Request

/-!
# Responses

The thirteen responses that a station gives, in the order of the requests they answer.
-/

namespace PlugAndCharge

/-- Gives the session its identifier in the header, and names the station. -/
structure SessionSetupRes where
  responseCode : ResponseCode
  evseId : String
  timeStamp : Option Int64
  deriving DecidableEq, Repr

instance : Json.Wire SessionSetupRes :=
  Json.recordWire
    (.cons (.required "ResponseCode") <| .cons (.required "EVSEID") <|
      .cons (.optional "EVSETimeStamp") .nil)
    (fun s => (s.responseCode, s.evseId, s.timeStamp, ()))
    (fun (responseCode, evseId, timeStamp, _) => { responseCode, evseId, timeStamp })

/-- Lists the services on offer. -/
structure ServiceDiscoveryRes where
  responseCode : ResponseCode
  paymentOptions : List PaymentOption
  chargeService : Option ChargeService
  serviceList : Option (List Service)
  deriving DecidableEq, Repr

instance : Json.Wire ServiceDiscoveryRes :=
  Json.recordWire
    (.cons (.required "ResponseCode") <| .cons (.withDefault "PaymentOptionList" []) <|
      .cons (.omissible "ChargeService") <| .cons (.omissible "ServiceList") .nil)
    (fun s => (s.responseCode, s.paymentOptions, s.chargeService, s.serviceList, ()))
    (fun (responseCode, paymentOptions, chargeService, serviceList, _) =>
      { responseCode, paymentOptions, chargeService, serviceList })

/-- Gives the details of a service. -/
structure ServiceDetailRes where
  responseCode : ResponseCode
  serviceId : ServiceId
  parameterSets : Option (List ParameterSet)
  deriving DecidableEq, Repr

instance : Json.Wire ServiceDetailRes :=
  Json.recordWire
    (.cons (.required "ResponseCode") <| .cons (.required "ServiceID") <|
      .cons (.omissible "ServiceParameterList") .nil)
    (fun s => (s.responseCode, s.serviceId, s.parameterSets, ()))
    (fun (responseCode, serviceId, parameterSets, _) => { responseCode, serviceId, parameterSets })

/-- Accepts the selection. -/
structure PaymentServiceSelectionRes where
  responseCode : ResponseCode
  deriving DecidableEq, Repr

instance : Json.Wire PaymentServiceSelectionRes :=
  Json.recordWire
    (.cons (.required "ResponseCode") .nil)
    (fun p => (p.responseCode, ()))
    (fun (responseCode, _) => { responseCode })

/-- Delivers a contract certificate with its encrypted key. -/
structure CertificateInstallationRes where
  responseCode : ResponseCode
  provisioningChain : CertificateChain
  contractChain : CertificateChain
  encryptedPrivateKey : EncryptedPrivateKey
  dhPublicKey : DhPublicKey
  emaid : Emaid
  deriving DecidableEq, Repr

instance : Json.Wire CertificateInstallationRes :=
  Json.recordWire
    (.cons (.required "ResponseCode") <| .cons (.required "SAProvisioningCertificateChain") <|
      .cons (.required "ContractSignatureCertChain") <|
      .cons (.required "ContractSignatureEncryptedPrivateKey") <|
      .cons (.required "DHpublickey") <| .cons (.required "eMAID") .nil)
    (fun c => (c.responseCode, c.provisioningChain, c.contractChain, c.encryptedPrivateKey,
      c.dhPublicKey, c.emaid, ()))
    (fun (responseCode, provisioningChain, contractChain, encryptedPrivateKey, dhPublicKey, emaid,
      _) =>
      { responseCode, provisioningChain, contractChain, encryptedPrivateKey, dhPublicKey, emaid })

/-- Challenges the vehicle to prove that it holds the contract key. -/
structure PaymentDetailsRes where
  responseCode : ResponseCode
  genChallenge : Octets
  timeStamp : Int64
  deriving DecidableEq, Repr

instance : Json.Wire PaymentDetailsRes :=
  Json.recordWire
    (.cons (.required "ResponseCode") <| .cons (.required "GenChallenge") <|
      .cons (.required "EVSETimeStamp") .nil)
    (fun p => (p.responseCode, p.genChallenge, p.timeStamp, ()))
    (fun (responseCode, genChallenge, timeStamp, _) => { responseCode, genChallenge, timeStamp })

/-- Grants leave to charge, now or later. -/
structure AuthorizationRes where
  responseCode : ResponseCode
  processing : EvseProcessing
  deriving DecidableEq, Repr

instance : Json.Wire AuthorizationRes :=
  Json.recordWire
    (.cons (.required "ResponseCode") <| .cons (.required "EVSEProcessing") .nil)
    (fun a => (a.responseCode, a.processing, ()))
    (fun (responseCode, processing, _) => { responseCode, processing })

/-- Offers schedules, now or later. -/
structure ChargeParameterDiscoveryRes where
  responseCode : ResponseCode
  processing : EvseProcessing
  schedules : Option (List ScheduleTuple)
  acStatus : Option AcEvseStatus
  dcStatus : Option DcEvseStatus
  deriving DecidableEq, Repr

instance : Json.Wire ChargeParameterDiscoveryRes :=
  Json.recordWire
    (.cons (.required "ResponseCode") <| .cons (.required "EVSEProcessing") <|
      .cons (.omissible "SAScheduleList") <| .cons (.omissible "AC_EVSEStatus") <|
      .cons (.omissible "DC_EVSEStatus") .nil)
    (fun c => (c.responseCode, c.processing, c.schedules, c.acStatus, c.dcStatus, ()))
    (fun (responseCode, processing, schedules, acStatus, dcStatus, _) =>
      { responseCode, processing, schedules, acStatus, dcStatus })

/-- Confirms the state of the power. -/
structure PowerDeliveryRes where
  responseCode : ResponseCode
  acStatus : Option AcEvseStatus
  dcStatus : Option DcEvseStatus
  deriving DecidableEq, Repr

instance : Json.Wire PowerDeliveryRes :=
  Json.recordWire
    (.cons (.required "ResponseCode") <| .cons (.omissible "AC_EVSEStatus") <|
      .cons (.omissible "DC_EVSEStatus") .nil)
    (fun p => (p.responseCode, p.acStatus, p.dcStatus, ()))
    (fun (responseCode, acStatus, dcStatus, _) => { responseCode, acStatus, dcStatus })

/-- Reports how charging goes under alternating current. -/
structure ChargingStatusRes where
  responseCode : ResponseCode
  evseId : String
  scheduleTupleId : UInt8
  maxCurrent : Option PhysicalValue
  meterInfo : Option MeterInfo
  receiptRequired : Option Bool
  acStatus : AcEvseStatus
  deriving DecidableEq, Repr

instance : Json.Wire ChargingStatusRes :=
  Json.recordWire
    (.cons (.required "ResponseCode") <| .cons (.required "EVSEID") <|
      .cons (.required "SAScheduleTupleID") <| .cons (.omissible "EVSEMaxCurrent") <|
      .cons (.omissible "MeterInfo") <| .cons (.omissible "ReceiptRequired") <|
      .cons (.required "AC_EVSEStatus") .nil)
    (fun c => (c.responseCode, c.evseId, c.scheduleTupleId, c.maxCurrent, c.meterInfo,
      c.receiptRequired, c.acStatus, ()))
    (fun (responseCode, evseId, scheduleTupleId, maxCurrent, meterInfo, receiptRequired, acStatus,
      _) =>
      { responseCode, evseId, scheduleTupleId, maxCurrent, meterInfo, receiptRequired, acStatus })

/-- Reports how charging goes under direct current. -/
structure CurrentDemandRes where
  responseCode : ResponseCode
  dcStatus : DcEvseStatus
  presentVoltage : PhysicalValue
  presentCurrent : PhysicalValue
  currentLimitAchieved : Bool
  voltageLimitAchieved : Bool
  powerLimitAchieved : Bool
  maximumVoltage : Option PhysicalValue
  maximumCurrent : Option PhysicalValue
  maximumPower : Option PhysicalValue
  evseId : String
  scheduleTupleId : UInt8
  meterInfo : Option MeterInfo
  receiptRequired : Option Bool
  deriving DecidableEq, Repr

instance : Json.Wire CurrentDemandRes :=
  Json.recordWire
    (.cons (.required "ResponseCode") <| .cons (.required "DC_EVSEStatus") <|
      .cons (.required "EVSEPresentVoltage") <| .cons (.required "EVSEPresentCurrent") <|
      .cons (.required "EVSECurrentLimitAchieved") <|
      .cons (.required "EVSEVoltageLimitAchieved") <|
      .cons (.required "EVSEPowerLimitAchieved") <|
      .cons (.omissible "EVSEMaximumVoltageLimit") <|
      .cons (.omissible "EVSEMaximumCurrentLimit") <|
      .cons (.omissible "EVSEMaximumPowerLimit") <| .cons (.required "EVSEID") <|
      .cons (.required "SAScheduleTupleID") <| .cons (.omissible "MeterInfo") <|
      .cons (.omissible "ReceiptRequired") .nil)
    (fun c => (c.responseCode, c.dcStatus, c.presentVoltage, c.presentCurrent,
      c.currentLimitAchieved, c.voltageLimitAchieved, c.powerLimitAchieved, c.maximumVoltage,
      c.maximumCurrent, c.maximumPower, c.evseId, c.scheduleTupleId, c.meterInfo, c.receiptRequired,
      ()))
    (fun (responseCode, dcStatus, presentVoltage, presentCurrent, currentLimitAchieved,
      voltageLimitAchieved, powerLimitAchieved, maximumVoltage, maximumCurrent, maximumPower,
      evseId, scheduleTupleId, meterInfo, receiptRequired, _) =>
      { responseCode, dcStatus, presentVoltage, presentCurrent, currentLimitAchieved,
        voltageLimitAchieved, powerLimitAchieved, maximumVoltage, maximumCurrent, maximumPower,
        evseId, scheduleTupleId, meterInfo, receiptRequired })

/-- Confirms a meter receipt. -/
structure MeteringReceiptRes where
  responseCode : ResponseCode
  acStatus : Option AcEvseStatus
  dcStatus : Option DcEvseStatus
  deriving DecidableEq, Repr

instance : Json.Wire MeteringReceiptRes :=
  Json.recordWire
    (.cons (.required "ResponseCode") <| .cons (.omissible "AC_EVSEStatus") <|
      .cons (.omissible "DC_EVSEStatus") .nil)
    (fun m => (m.responseCode, m.acStatus, m.dcStatus, ()))
    (fun (responseCode, acStatus, dcStatus, _) => { responseCode, acStatus, dcStatus })

/-- Confirms the end of the session. -/
structure SessionStopRes where
  responseCode : ResponseCode
  deriving DecidableEq, Repr

instance : Json.Wire SessionStopRes :=
  Json.recordWire
    (.cons (.required "ResponseCode") .nil)
    (fun s => (s.responseCode, ()))
    (fun (responseCode, _) => { responseCode })

end PlugAndCharge
