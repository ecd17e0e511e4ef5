import PlugAndCharge.Pki.Store
import PlugAndCharge.Vehicle.Simulator

/-!
# On board

The simulated vehicle beside the directory of its certificates and keys.  An installed contract is
kept by the vehicle, and written to the directory as well if the vehicle persists it.
-/

namespace PlugAndCharge

open P256 (PrivateKey)

/-- What is on board: the simulated vehicle, and the directory of its certificates and keys. -/
structure Onboard where
  simulator : Simulator
  directory : Directory
  deriving DecidableEq, Repr

namespace Onboard

/-- Keeps a contract.  The vehicle has it only if it has also been written where it is to be. -/
def storeContract (suite : Suite) (chain : CertificateChain) (key : PrivateKey)
    (onboard : Onboard) : Except VehicleError Unit × Onboard :=
  let (stored, directory) :=
    if onboard.simulator.persists then onboard.directory.storeContract suite chain key
    else (.ok (), onboard.directory)
  match stored with
  | .error error => (.error (.storage error), { onboard with directory })
  | .ok _ =>
    (.ok (),
      { simulator :=
          { onboard.simulator with contract := some { certificate := chain.certificate, key } }
        directory })

/-- The simulated vehicle as a vehicle. -/
def vehicle (suite : Suite) : Vehicle Onboard where
  energyMode onboard := onboard.simulator.settings.energyMode
  certInstallNeeded onboard := onboard.simulator.settings.certInstallNeeded
  chargeParameters onboard := onboard.simulator.chargeParameters
  chooseSchedule schedules onboard := (Simulator.chooseSchedule schedules, onboard)
  continueCharging onboard :=
    let (goesOn, simulator) := onboard.simulator.continueCharging
    (goesOn, { onboard with simulator })
  wantsPause onboard := onboard.simulator.settings.pauseWhenDone
  storeContract := storeContract suite
  currentDemand onboard := (onboard.simulator.currentDemand, onboard)

end Onboard

end PlugAndCharge
