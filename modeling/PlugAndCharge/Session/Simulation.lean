import PlugAndCharge.Session.Run
import PlugAndCharge.Vehicle.Onboard

/-!
# Simulations

Sessions of the simulated vehicle, with its certificates and keys in a directory.
-/

namespace PlugAndCharge

/-- The simulated vehicle and its directory as what takes part in a session. -/
def Onboard.equipment (suite : Suite) : Equipment Onboard where
  vehicle := Onboard.vehicle suite
  credentials := Directory.credentials suite Onboard.directory

/-- The simulated vehicle of a configuration before its session. -/
def Configuration.onboard (configuration : Configuration) (persists : Bool)
    (directory : Directory) : Onboard where
  simulator := Simulator.start configuration.simulator persists
  directory := directory

/-- Runs a session of the simulated vehicle of a configuration. -/
def Configuration.simulate (configuration : Configuration) (suite : Suite) (persists : Bool)
    (directory : Directory) (isTls : Bool) (peer : String) (cancelAt : Option Milliseconds)
    (replies : List Reply) : Except ConfigurationError (Run Onboard) :=
  Run.ofConfiguration (Onboard.equipment suite) configuration isTls peer cancelAt replies
    (configuration.onboard persists directory)

end PlugAndCharge
