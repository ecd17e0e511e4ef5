import PlugAndCharge.Message.Quantity

/-!
# Charge parameters and schedules

What the vehicle can take, what the station can give over time, and the profile that the vehicle
commits to.
-/

namespace PlugAndCharge

/-- The error state of a vehicle under direct current. -/
inductive DcEvErrorCode where
  | noError
  | failedRessTemperatureInhibit
  | failedEvShiftPosition
  | failedChargerConnectorLockFault
  | failedEvRessMalfunction
  | failedChargingCurrentDifferential
  | failedChargingVoltageOutOfRange
  | failedChargingSystemIncompatibility
  | noData
  deriving DecidableEq, Repr

namespace DcEvErrorCode

/-- Every error state. -/
def all : List DcEvErrorCode :=
  [.noError, .failedRessTemperatureInhibit, .failedEvShiftPosition,
   .failedChargerConnectorLockFault, .failedEvRessMalfunction, .failedChargingCurrentDifferential,
   .failedChargingVoltageOutOfRange, .failedChargingSystemIncompatibility, .noData]

/-- The name on the wire. -/
def name : DcEvErrorCode → String
  | .noError => "NO_ERROR"
  | .failedRessTemperatureInhibit => "FAILED_RESSTemperatureInhibit"
  | .failedEvShiftPosition => "FAILED_EVShiftPosition"
  | .failedChargerConnectorLockFault => "FAILED_ChargerConnectorLockFault"
  | .failedEvRessMalfunction => "FAILED_EVRESSMalfunction"
  | .failedChargingCurrentDifferential => "FAILED_ChargingCurrentdifferential"
  | .failedChargingVoltageOutOfRange => "FAILED_ChargingVoltageOutOfRange"
  | .failedChargingSystemIncompatibility => "FAILED_ChargingSystemIncompatibility"
  | .noData => "NoData"

instance : Json.Enumeration DcEvErrorCode := ⟨all, name⟩

end DcEvErrorCode

/-- The state of a vehicle under direct current. -/
structure DcEvStatus where
  ready : Bool
  errorCode : DcEvErrorCode
  stateOfCharge : Int8
  deriving DecidableEq, Repr

instance : Json.Wire DcEvStatus :=
  Json.recordWire
    (.cons (.required "EVReady") <| .cons (.required "EVErrorCode") <|
      .cons (.required "EVRESSSOC") .nil)
    (fun d => (d.ready, d.errorCode, d.stateOfCharge, ()))
    (fun (ready, errorCode, stateOfCharge, _) => { ready, errorCode, stateOfCharge })

/-- What a vehicle can take as alternating current. -/
structure AcEvChargeParameter where
  departureTime : Option UInt32
  energyAmount : PhysicalValue
  maxVoltage : PhysicalValue
  maxCurrent : PhysicalValue
  minCurrent : PhysicalValue
  deriving DecidableEq, Repr

instance : Json.Wire AcEvChargeParameter :=
  Json.recordWire
    (.cons (.optional "DepartureTime") <| .cons (.required "EAmount") <|
      .cons (.required "EVMaxVoltage") <| .cons (.required "EVMaxCurrent") <|
      .cons (.required "EVMinCurrent") .nil)
    (fun a => (a.departureTime, a.energyAmount, a.maxVoltage, a.maxCurrent, a.minCurrent, ()))
    (fun (departureTime, energyAmount, maxVoltage, maxCurrent, minCurrent, _) =>
      { departureTime, energyAmount, maxVoltage, maxCurrent, minCurrent })

/-- What a vehicle can take as direct current. -/
structure DcEvChargeParameter where
  departureTime : Option UInt32
  status : DcEvStatus
  maximumCurrent : PhysicalValue
  maximumPower : Option PhysicalValue
  maximumVoltage : PhysicalValue
  energyCapacity : Option PhysicalValue
  energyRequest : Option PhysicalValue
  fullSoc : Option Int8
  bulkSoc : Option Int8
  deriving DecidableEq, Repr

instance : Json.Wire DcEvChargeParameter :=
  Json.recordWire
    (.cons (.optional "DepartureTime") <| .cons (.required "DC_EVStatus") <|
      .cons (.required "EVMaximumCurrentLimit") <| .cons (.optional "EVMaximumPowerLimit") <|
      .cons (.required "EVMaximumVoltageLimit") <| .cons (.optional "EVEnergyCapacity") <|
      .cons (.optional "EVEnergyRequest") <| .cons (.optional "FullSOC") <|
      .cons (.optional "BulkSOC") .nil)
    (fun d => (d.departureTime, d.status, d.maximumCurrent, d.maximumPower, d.maximumVoltage,
      d.energyCapacity, d.energyRequest, d.fullSoc, d.bulkSoc, ()))
    (fun (departureTime, status, maximumCurrent, maximumPower, maximumVoltage, energyCapacity,
      energyRequest, fullSoc, bulkSoc, _) =>
      { departureTime, status, maximumCurrent, maximumPower, maximumVoltage, energyCapacity,
        energyRequest, fullSoc, bulkSoc })

/-- The largest power that a station gives from `start` on, in seconds from now. -/
structure PMaxScheduleEntry where
  start : UInt32
  duration : Option UInt32
  pMax : PhysicalValue
  deriving DecidableEq, Repr

instance : Json.Wire PMaxScheduleEntry :=
  Json.recordWire
    (.cons (.required "Start") <| .cons (.optional "Duration") <| .cons (.required "PMax") .nil)
    (fun p => (p.start, p.duration, p.pMax, ()))
    (fun (start, duration, pMax, _) => { start, duration, pMax })

/-- A schedule that a station offers. -/
structure ScheduleTuple where
  id : UInt8
  pMaxSchedule : List PMaxScheduleEntry
  deriving DecidableEq, Repr

instance : Json.Wire ScheduleTuple :=
  Json.recordWire
    (.cons (.required "SAScheduleTupleID") <| .cons (.required "PMaxSchedule") .nil)
    (fun s => (s.id, s.pMaxSchedule, ()))
    (fun (id, pMaxSchedule, _) => { id, pMaxSchedule })

/-- The largest power that the vehicle takes from `start` on. -/
structure ProfileEntry where
  start : UInt32
  maxPower : PhysicalValue
  maxPhasesInUse : Option UInt8
  deriving DecidableEq, Repr

instance : Json.Wire ProfileEntry :=
  Json.recordWire
    (.cons (.required "ChargingProfileEntryStart") <|
      .cons (.required "ChargingProfileEntryMaxPower") <|
      .cons (.optional "ChargingProfileEntryMaxNumberOfPhasesInUse") .nil)
    (fun p => (p.start, p.maxPower, p.maxPhasesInUse, ()))
    (fun (start, maxPower, maxPhasesInUse, _) => { start, maxPower, maxPhasesInUse })

/-- The profile that the vehicle commits to. -/
structure ChargingProfile where
  entries : List ProfileEntry
  deriving DecidableEq, Repr

instance : Json.Wire ChargingProfile :=
  Json.recordWire
    (.cons (.required "ProfileEntries") .nil)
    (fun c => (c.entries, ()))
    (fun (entries, _) => { entries })

/-- What the vehicle wants of the power: to start, to stop or to agree on it anew. -/
inductive ChargeProgress where
  | start
  | stop
  | renegotiate
  deriving DecidableEq, Repr

namespace ChargeProgress

/-- Every progress. -/
def all : List ChargeProgress :=
  [.start, .stop, .renegotiate]

/-- The name on the wire. -/
def name : ChargeProgress → String
  | .start => "Start"
  | .stop => "Stop"
  | .renegotiate => "Renegotiate"

instance : Json.Enumeration ChargeProgress := ⟨all, name⟩

end ChargeProgress

/-- How a session ends: for good, or to be taken up again later. -/
inductive SessionEnd where
  | terminate
  | pause
  deriving DecidableEq, Repr

namespace SessionEnd

/-- Every way to end. -/
def all : List SessionEnd :=
  [.terminate, .pause]

/-- The name on the wire. -/
def name : SessionEnd → String
  | .terminate => "Terminate"
  | .pause => "Pause"

instance : Json.Enumeration SessionEnd := ⟨all, name⟩

end SessionEnd

end PlugAndCharge
