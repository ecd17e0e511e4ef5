import PlugAndCharge.Message.Request
import PlugAndCharge.Security.Error
import PlugAndCharge.Security.Suite

/-!
# Vehicles

What a session asks of the vehicle that it charges.  A vehicle is given by its operations on a
state, of which nothing else is known.
-/

namespace PlugAndCharge

open P256 (PrivateKey)

/-- What a vehicle cannot do. -/
inductive VehicleError where
  | noSchedule
  | storage (error : PkiError)
  /-- The vehicle states no demand for direct current in its mode. -/
  | noDemand (mode : EnergyTransferMode)
  deriving DecidableEq, Repr

namespace VehicleError

/-- A fault in words. -/
def message : VehicleError → String
  | .noSchedule => "no acceptable schedule offered"
  | .storage error => s!"can't store contract credentials: {error.message}"
  | .noDemand mode => s!"CurrentDemand in {mode.name} is not supported by this EV"

/-- The name of the kind of a fault. -/
def kind : VehicleError → String
  | .noSchedule => "NoSchedule"
  | .storage _ => "Storage"
  | .noDemand _ => "Unsupported"

end VehicleError

/-- What a vehicle can take. -/
structure ChargeParameters where
  energyMode : EnergyTransferMode
  ac : Option AcEvChargeParameter
  dc : Option DcEvChargeParameter
  deriving DecidableEq, Repr

/-- A vehicle's choice among the schedules on offer. -/
structure ScheduleSelection where
  chargeProgress : ChargeProgress
  scheduleId : UInt8
  chargingProfile : Option ChargingProfile
  deriving DecidableEq, Repr

/-- What a session asks of a vehicle with state `ω`. -/
structure Vehicle (ω : Type) where
  energyMode : ω → EnergyTransferMode
  /-- Whether a contract certificate has to be installed. -/
  certInstallNeeded : ω → Bool
  chargeParameters : ω → ChargeParameters
  /-- Chooses among the schedules on offer. -/
  chooseSchedule : List ScheduleTuple → ω → Except VehicleError ScheduleSelection × ω
  /-- Whether the vehicle goes on charging; asked once for each round. -/
  continueCharging : ω → Bool × ω
  /-- Whether a session that the vehicle ends itself is paused. -/
  wantsPause : ω → Bool
  /-- Keeps a contract certificate with the certificates above it, and its key. -/
  storeContract : CertificateChain → PrivateKey → ω → Except VehicleError Unit × ω
  /-- The present demand for direct current. -/
  currentDemand : ω → Except VehicleError CurrentDemandReq × ω

end PlugAndCharge
