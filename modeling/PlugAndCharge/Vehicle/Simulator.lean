import PlugAndCharge.Configuration.VehicleSettings
import PlugAndCharge.Vehicle.Basic

/-!
# The simulated vehicle

A vehicle that takes part in as many rounds of charging as it is set to and takes the first schedule
on offer.
-/

namespace PlugAndCharge

open P256 (PrivateKey)

/-- A contract that a vehicle holds. -/
structure InstalledContract where
  certificate : Octets
  key : PrivateKey
  deriving DecidableEq, Repr

/-- The simulated vehicle. -/
structure Simulator where
  settings : VehicleSettings
  /-- Whether a contract is written to the directory. -/
  persists : Bool
  /-- The rounds of charging so far. -/
  loopsDone : Nat
  contract : Option InstalledContract
  deriving DecidableEq, Repr

namespace Simulator

/-- A vehicle that has not charged yet. -/
def start (settings : VehicleSettings) (persists : Bool) : Simulator where
  settings := settings
  persists := persists
  loopsDone := 0
  contract := none

/-- Whether the vehicle has taken part in all its rounds. -/
def isDone (simulator : Simulator) : Bool :=
  simulator.settings.chargeLoops.toNat ≤ simulator.loopsDone

/-- A plain quantity. -/
def quantity (value : Int16) (unit : UnitSymbol) : PhysicalValue where
  value := value
  multiplier := 0
  unit := unit

/-- The state under direct current. -/
def dcStatus (settings : VehicleSettings) : DcEvStatus where
  ready := true
  errorCode := .noError
  stateOfCharge := settings.soc

/-- What the vehicle can take as alternating current. -/
def acParameters (settings : VehicleSettings) : AcEvChargeParameter where
  departureTime := none
  energyAmount := quantity settings.energyRequest .wattHours
  maxVoltage := quantity settings.maxVoltage .volt
  maxCurrent := quantity settings.maxCurrent .ampere
  minCurrent := quantity settings.minCurrent .ampere

/-- What the vehicle can take as direct current. -/
def dcParameters (settings : VehicleSettings) : DcEvChargeParameter where
  departureTime := none
  status := dcStatus settings
  maximumCurrent := quantity settings.maxCurrent .ampere
  maximumPower := none
  maximumVoltage := quantity settings.maxVoltage .volt
  energyCapacity := none
  energyRequest := some (quantity settings.energyRequest .wattHours)
  fullSoc := some 100
  bulkSoc := some 80

/-- What the vehicle can take in its mode. -/
def chargeParameters (simulator : Simulator) : ChargeParameters :=
  let settings := simulator.settings
  if settings.energyMode.isAc then
    { energyMode := settings.energyMode, ac := some (acParameters settings), dc := none }
  else { energyMode := settings.energyMode, ac := none, dc := some (dcParameters settings) }

/-- The profile that takes all the power that a schedule gives. -/
def profileOf (schedule : ScheduleTuple) : ChargingProfile where
  entries := schedule.pMaxSchedule.map fun entry =>
    { start := entry.start, maxPower := entry.pMax, maxPhasesInUse := none }

/-- Takes the first schedule on offer. -/
def chooseSchedule : List ScheduleTuple → Except VehicleError ScheduleSelection
  | [] => .error .noSchedule
  | schedule :: _ =>
    .ok
      { chargeProgress := .start
        scheduleId := schedule.id
        chargingProfile := some (profileOf schedule) }

/-- Takes part in one more round, if any is left. -/
def continueCharging (simulator : Simulator) : Bool × Simulator :=
  if simulator.isDone then (false, simulator)
  else (true, { simulator with loopsDone := simulator.loopsDone + 1 })

/-- The present demand for direct current. -/
def currentDemand (simulator : Simulator) : Except VehicleError CurrentDemandReq :=
  let settings := simulator.settings
  if settings.energyMode.isAc then .error (.noDemand settings.energyMode)
  else
    .ok
      { status := dcStatus settings
        targetCurrent := quantity settings.maxCurrent .ampere
        maximumVoltage := some (quantity settings.maxVoltage .volt)
        maximumCurrent := some (quantity settings.maxCurrent .ampere)
        maximumPower := none
        bulkChargingComplete := some false
        chargingComplete := simulator.isDone
        remainingTimeToFullSoc := none
        remainingTimeToBulkSoc := none
        targetVoltage := quantity settings.maxVoltage .volt }

end Simulator

end PlugAndCharge
