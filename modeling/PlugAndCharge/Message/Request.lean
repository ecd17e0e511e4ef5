import PlugAndCharge.Message.Credential
import PlugAndCharge.Message.Power
import PlugAndCharge.Message.Service
import PlugAndCharge.Message.Station

/-!
# Requests

The thirteen requests that a vehicle sends, in the order in which a session first sends them.
-/

namespace PlugAndCharge

/-- The identifier of a session, chosen by the station. -/
abbrev SessionId := Octets

/-- The identifier that a vehicle uses until the station has chosen one. -/
def SessionId.unassigned : SessionId := List.replicate 8 0

/-- Opens a session. -/
structure SessionSetupReq where
  evccId : Octets
  deriving DecidableEq, Repr

instance : Json.Wire SessionSetupReq :=
  Json.recordWire
    (.cons (.required "EVCCID") .nil)
    (fun s => (s.evccId, ()))
    (fun (evccId, _) => { evccId })

/-- Asks for the services on offer. -/
structure ServiceDiscoveryReq where
  serviceScope : Option String
  serviceCategory : Option ServiceCategory
  deriving DecidableEq, Repr

instance : Json.Wire ServiceDiscoveryReq :=
  Json.recordWire
    (.cons (.optional "ServiceScope") <| .cons (.optional "ServiceCategory") .nil)
    (fun s => (s.serviceScope, s.serviceCategory, ()))
    (fun (serviceScope, serviceCategory, _) => { serviceScope, serviceCategory })

/-- Asks for the details of a service. -/
structure ServiceDetailReq where
  serviceId : ServiceId
  deriving DecidableEq, Repr

instance : Json.Wire ServiceDetailReq :=
  Json.recordWire
    (.cons (.required "ServiceID") .nil)
    (fun s => (s.serviceId, ()))
    (fun (serviceId, _) => { serviceId })

/-- Selects services and the way to pay. -/
structure PaymentServiceSelectionReq where
  selectedPaymentOption : PaymentOption
  selectedServices : List SelectedService
  deriving DecidableEq, Repr

instance : Json.Wire PaymentServiceSelectionReq :=
  Json.recordWire
    (.cons (.required "SelectedPaymentOption") <| .cons (.required "SelectedServiceList") .nil)
    (fun p => (p.selectedPaymentOption, p.selectedServices, ()))
    (fun (selectedPaymentOption, selectedServices, _) =>
      { selectedPaymentOption, selectedServices })

/-- Asks for a contract certificate. -/
structure CertificateInstallationReq where
  id : String
  oemProvisioningCert : Octets
  rootCertificateIds : List RootCertificateId
  deriving DecidableEq, Repr

instance : Json.Wire CertificateInstallationReq :=
  Json.recordWire
    (.cons (.required "Id") <| .cons (.required "OEMProvisioningCert") <|
      .cons (.required "ListOfRootCertificateIDs") .nil)
    (fun c => (c.id, c.oemProvisioningCert, c.rootCertificateIds, ()))
    (fun (id, oemProvisioningCert, rootCertificateIds, _) =>
      { id, oemProvisioningCert, rootCertificateIds })

/-- Presents the contract. -/
structure PaymentDetailsReq where
  emaid : String
  contractChain : CertificateChain
  deriving DecidableEq, Repr

instance : Json.Wire PaymentDetailsReq :=
  Json.recordWire
    (.cons (.required "eMAID") <| .cons (.required "ContractSignatureCertChain") .nil)
    (fun p => (p.emaid, p.contractChain, ()))
    (fun (emaid, contractChain, _) => { emaid, contractChain })

/-- Asks for leave to charge; under a contract it answers the challenge. -/
structure AuthorizationReq where
  id : Option String
  genChallenge : Option Octets
  deriving DecidableEq, Repr

instance : Json.Wire AuthorizationReq :=
  Json.recordWire
    (.cons (.optional "Id") <| .cons (.optional "GenChallenge") .nil)
    (fun a => (a.id, a.genChallenge, ()))
    (fun (id, genChallenge, _) => { id, genChallenge })

/-- States what the vehicle can take. -/
structure ChargeParameterDiscoveryReq where
  maxEntries : Option UInt16
  requestedMode : EnergyTransferMode
  acParameters : Option AcEvChargeParameter
  dcParameters : Option DcEvChargeParameter
  deriving DecidableEq, Repr

instance : Json.Wire ChargeParameterDiscoveryReq :=
  Json.recordWire
    (.cons (.optional "MaxEntriesSAScheduleTuple") <|
      .cons (.required "RequestedEnergyTransferMode") <|
      .cons (.optional "AC_EVChargeParameter") <| .cons (.optional "DC_EVChargeParameter") .nil)
    (fun c => (c.maxEntries, c.requestedMode, c.acParameters, c.dcParameters, ()))
    (fun (maxEntries, requestedMode, acParameters, dcParameters, _) =>
      { maxEntries, requestedMode, acParameters, dcParameters })

/-- Starts, stops or renegotiates the power. -/
structure PowerDeliveryReq where
  chargeProgress : ChargeProgress
  scheduleTupleId : UInt8
  chargingProfile : Option ChargingProfile
  deriving DecidableEq, Repr

instance : Json.Wire PowerDeliveryReq :=
  Json.recordWire
    (.cons (.required "ChargeProgress") <| .cons (.required "SAScheduleTupleID") <|
      .cons (.optional "ChargingProfile") .nil)
    (fun p => (p.chargeProgress, p.scheduleTupleId, p.chargingProfile, ()))
    (fun (chargeProgress, scheduleTupleId, chargingProfile, _) =>
      { chargeProgress, scheduleTupleId, chargingProfile })

/-- Asks how charging goes under alternating current. -/
structure ChargingStatusReq where
  deriving DecidableEq, Repr

instance : Json.Wire ChargingStatusReq :=
  Json.recordWire .nil (fun _ => ()) (fun _ => {})

/-- States the present demand under direct current. -/
structure CurrentDemandReq where
  status : DcEvStatus
  targetCurrent : PhysicalValue
  maximumVoltage : Option PhysicalValue
  maximumCurrent : Option PhysicalValue
  maximumPower : Option PhysicalValue
  bulkChargingComplete : Option Bool
  chargingComplete : Bool
  remainingTimeToFullSoc : Option PhysicalValue
  remainingTimeToBulkSoc : Option PhysicalValue
  targetVoltage : PhysicalValue
  deriving DecidableEq, Repr

instance : Json.Wire CurrentDemandReq :=
  Json.recordWire
    (.cons (.required "DC_EVStatus") <| .cons (.required "EVTargetCurrent") <|
      .cons (.optional "EVMaximumVoltageLimit") <| .cons (.optional "EVMaximumCurrentLimit") <|
      .cons (.optional "EVMaximumPowerLimit") <| .cons (.optional "BulkChargingComplete") <|
      .cons (.required "ChargingComplete") <| .cons (.optional "RemainingTimeToFullSoC") <|
      .cons (.optional "RemainingTimeToBulkSoC") <| .cons (.required "EVTargetVoltage") .nil)
    (fun c => (c.status, c.targetCurrent, c.maximumVoltage, c.maximumCurrent, c.maximumPower,
      c.bulkChargingComplete, c.chargingComplete, c.remainingTimeToFullSoc,
      c.remainingTimeToBulkSoc, c.targetVoltage, ()))
    (fun (status, targetCurrent, maximumVoltage, maximumCurrent, maximumPower, bulkChargingComplete,
      chargingComplete, remainingTimeToFullSoc, remainingTimeToBulkSoc, targetVoltage, _) =>
      { status, targetCurrent, maximumVoltage, maximumCurrent, maximumPower, bulkChargingComplete,
        chargingComplete, remainingTimeToFullSoc, remainingTimeToBulkSoc, targetVoltage })

/-- Confirms a meter reading. -/
structure MeteringReceiptReq where
  id : String
  sessionId : SessionId
  scheduleTupleId : Option UInt8
  meterInfo : MeterInfo
  deriving DecidableEq, Repr

instance : Json.Wire MeteringReceiptReq :=
  Json.recordWire
    (.cons (.required "Id") <| .cons (.required "SessionID") <|
      .cons (.optional "SAScheduleTupleID") <| .cons (.required "MeterInfo") .nil)
    (fun m => (m.id, m.sessionId, m.scheduleTupleId, m.meterInfo, ()))
    (fun (id, sessionId, scheduleTupleId, meterInfo, _) =>
      { id, sessionId, scheduleTupleId, meterInfo })

/-- Ends the session. -/
structure SessionStopReq where
  chargingSession : SessionEnd
  deriving DecidableEq, Repr

instance : Json.Wire SessionStopReq :=
  Json.recordWire
    (.cons (.required "ChargingSession") .nil)
    (fun s => (s.chargingSession, ()))
    (fun (chargingSession, _) => { chargingSession })

end PlugAndCharge
