import PlugAndCharge.Message.Service

/-!
# Settings of the simulated vehicle
-/

namespace PlugAndCharge

/-- What the simulated vehicle is and wants. -/
structure VehicleSettings where
  energyMode : EnergyTransferMode
  /-- Whether a contract certificate has to be installed before a contract can be used. -/
  certInstallNeeded : Bool
  /-- How many rounds of charging the vehicle takes part in. -/
  chargeLoops : UInt32
  /-- Whether the vehicle pauses, rather than terminates, a session that it ends itself. -/
  pauseWhenDone : Bool
  /-- The state of charge, in percent. -/
  soc : Int8
  maxVoltage : Int16
  maxCurrent : Int16
  minCurrent : Int16
  /-- The wanted energy, in watt hours. -/
  energyRequest : Int16
  deriving DecidableEq, Repr

/-- The vehicle that is simulated unless another is set. -/
def VehicleSettings.standard : VehicleSettings where
  energyMode := .acThreePhaseCore
  certInstallNeeded := false
  chargeLoops := 10
  pauseWhenDone := false
  soc := 40
  maxVoltage := 400
  maxCurrent := 32
  minCurrent := 6
  energyRequest := 20000

instance : Json.Wire VehicleSettings :=
  Json.recordWire
    (.cons (.withDefault "energy_mode" VehicleSettings.standard.energyMode) <|
      .cons (.withDefault "cert_install_needed" VehicleSettings.standard.certInstallNeeded) <|
      .cons (.withDefault "charge_loops" VehicleSettings.standard.chargeLoops) <|
      .cons (.withDefault "pause_when_done" VehicleSettings.standard.pauseWhenDone) <|
      .cons (.withDefault "soc" VehicleSettings.standard.soc) <|
      .cons (.withDefault "max_voltage" VehicleSettings.standard.maxVoltage) <|
      .cons (.withDefault "max_current" VehicleSettings.standard.maxCurrent) <|
      .cons (.withDefault "min_current" VehicleSettings.standard.minCurrent) <|
      .cons (.withDefault "energy_request" VehicleSettings.standard.energyRequest) .nil)
    (fun v => (v.energyMode, v.certInstallNeeded, v.chargeLoops, v.pauseWhenDone, v.soc,
      v.maxVoltage, v.maxCurrent, v.minCurrent, v.energyRequest, ()))
    (fun (energyMode, certInstallNeeded, chargeLoops, pauseWhenDone, soc, maxVoltage, maxCurrent,
      minCurrent, energyRequest, _) =>
      { energyMode, certInstallNeeded, chargeLoops, pauseWhenDone, soc, maxVoltage, maxCurrent,
        minCurrent, energyRequest })

end PlugAndCharge
