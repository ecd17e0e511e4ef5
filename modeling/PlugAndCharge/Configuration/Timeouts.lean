import PlugAndCharge.Message.Envelope
import PlugAndCharge.Time

/-!
# Timeouts

How long the vehicle waits for each response, in milliseconds, and how long a station may keep it
waiting over all repetitions of a request.
-/

namespace PlugAndCharge

/-- The longest waits, in milliseconds. -/
structure Timeouts where
  /-- Until the session has an identifier. -/
  communicationSetup : UInt64
  serviceDiscovery : UInt64
  serviceDetail : UInt64
  paymentServiceSelection : UInt64
  certificateInstallation : UInt64
  paymentDetails : UInt64
  authorization : UInt64
  chargeParameterDiscovery : UInt64
  powerDelivery : UInt64
  chargingStatus : UInt64
  currentDemand : UInt64
  meteringReceipt : UInt64
  sessionStop : UInt64
  /-- For a request and all its repetitions while the station is still working on it. -/
  ongoing : UInt64
  deriving DecidableEq, Repr

/-- The waits that hold unless others are set. -/
def Timeouts.standard : Timeouts where
  communicationSetup := 20000
  serviceDiscovery := 2000
  serviceDetail := 5000
  paymentServiceSelection := 2000
  certificateInstallation := 5000
  paymentDetails := 5000
  authorization := 2000
  chargeParameterDiscovery := 2000
  powerDelivery := 5000
  chargingStatus := 2000
  currentDemand := 250
  meteringReceipt := 2000
  sessionStop := 2000
  ongoing := 60000

instance : Json.Wire Timeouts :=
  Json.recordWire
    (.cons (.withDefault "communication_setup" Timeouts.standard.communicationSetup) <|
      .cons (.withDefault "service_discovery" Timeouts.standard.serviceDiscovery) <|
      .cons (.withDefault "service_detail" Timeouts.standard.serviceDetail) <|
      .cons (.withDefault "payment_service_selection" Timeouts.standard.paymentServiceSelection) <|
      .cons (.withDefault "certificate_installation" Timeouts.standard.certificateInstallation) <|
      .cons (.withDefault "payment_details" Timeouts.standard.paymentDetails) <|
      .cons (.withDefault "authorization" Timeouts.standard.authorization) <|
      .cons (.withDefault "charge_parameter_discovery"
        Timeouts.standard.chargeParameterDiscovery) <|
      .cons (.withDefault "power_delivery" Timeouts.standard.powerDelivery) <|
      .cons (.withDefault "charging_status" Timeouts.standard.chargingStatus) <|
      .cons (.withDefault "current_demand" Timeouts.standard.currentDemand) <|
      .cons (.withDefault "metering_receipt" Timeouts.standard.meteringReceipt) <|
      .cons (.withDefault "session_stop" Timeouts.standard.sessionStop) <|
      .cons (.withDefault "ongoing" Timeouts.standard.ongoing) .nil)
    (fun t => (t.communicationSetup, t.serviceDiscovery, t.serviceDetail, t.paymentServiceSelection,
      t.certificateInstallation, t.paymentDetails, t.authorization, t.chargeParameterDiscovery,
      t.powerDelivery, t.chargingStatus, t.currentDemand, t.meteringReceipt, t.sessionStop,
      t.ongoing, ()))
    (fun (communicationSetup, serviceDiscovery, serviceDetail, paymentServiceSelection,
      certificateInstallation, paymentDetails, authorization, chargeParameterDiscovery,
      powerDelivery, chargingStatus, currentDemand, meteringReceipt, sessionStop, ongoing, _) =>
      { communicationSetup, serviceDiscovery, serviceDetail, paymentServiceSelection,
        certificateInstallation, paymentDetails, authorization, chargeParameterDiscovery,
        powerDelivery, chargingStatus, currentDemand, meteringReceipt, sessionStop, ongoing })

namespace Timeouts

/-- The longest wait for the response of an exchange. -/
def forExchange (timeouts : Timeouts) : Exchange → Milliseconds
  | .sessionSetup => timeouts.communicationSetup.toNat
  | .serviceDiscovery => timeouts.serviceDiscovery.toNat
  | .serviceDetail => timeouts.serviceDetail.toNat
  | .paymentServiceSelection => timeouts.paymentServiceSelection.toNat
  | .certificateInstallation => timeouts.certificateInstallation.toNat
  | .paymentDetails => timeouts.paymentDetails.toNat
  | .authorization => timeouts.authorization.toNat
  | .chargeParameterDiscovery => timeouts.chargeParameterDiscovery.toNat
  | .powerDelivery => timeouts.powerDelivery.toNat
  | .chargingStatus => timeouts.chargingStatus.toNat
  | .currentDemand => timeouts.currentDemand.toNat
  | .meteringReceipt => timeouts.meteringReceipt.toNat
  | .sessionStop => timeouts.sessionStop.toNat

/-- The longest wait after a message.  No wait follows a response; the longest wait for a session
identifier stands in. -/
def forKind (timeouts : Timeouts) : Kind → Milliseconds
  | .request exchange => timeouts.forExchange exchange
  | .response _ => timeouts.communicationSetup.toNat

/-- The longest wait over all repetitions of a request. -/
def ongoingBudget (timeouts : Timeouts) : Milliseconds := timeouts.ongoing.toNat

end Timeouts

end PlugAndCharge
