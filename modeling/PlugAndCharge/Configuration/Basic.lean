import PlugAndCharge.Configuration.Timeouts
import PlugAndCharge.Configuration.VehicleSettings
import PlugAndCharge.Pki.Directory
import PlugAndCharge.Session.Outcome
import PlugAndCharge.Text.Quoted

/-!
# Configuration

A configuration file is a JSON object in which every member may be missing and then keeps its
standard value.  The one value that is checked further is the vehicle's identifier.
-/

namespace PlugAndCharge

/-- All settings. -/
structure Configuration where
  /-- The vehicle's identifier in hexadecimal. -/
  evccId : String
  timeouts : Timeouts
  /-- Where certificates and keys are kept. -/
  pkiFolder : String
  /-- The choices of a paused session that is to be resumed. -/
  resume : Option Choices
  simulator : VehicleSettings
  deriving DecidableEq, Repr

namespace Configuration

/-- The settings that hold unless others are made. -/
def standard : Configuration where
  evccId := "0A1B2C3D4E5F"
  timeouts := Timeouts.standard
  pkiFolder := "pki"
  resume := none
  simulator := VehicleSettings.standard

instance : Json.Wire Configuration :=
  Json.recordWire
    (.cons (.withDefault "evcc_id" standard.evccId) <|
      .cons (.withDefault "timeouts" standard.timeouts) <|
      .cons (.withDefault "pki_dir" standard.pkiFolder) <|
      .cons (.withDefault "resume" standard.resume) <|
      .cons (.withDefault "simulator" standard.simulator) .nil)
    (fun c => (c.evccId, c.timeouts, c.pkiFolder, c.resume, c.simulator, ()))
    (fun (evccId, timeouts, pkiFolder, resume, simulator, _) =>
      { evccId, timeouts, pkiFolder, resume, simulator })

end Configuration

/-- Why there is no configuration. -/
inductive ConfigurationError where
  | unreadable (path : String)
  | notText (path : String)
  | malformed (flaw : Json.Flaw)
  | invalidEvccId (id : String)
  deriving DecidableEq, Repr

namespace ConfigurationError

/-- A fault in words. -/
def message : ConfigurationError → String
  | .unreadable path => s!"can't read {path}: {ioFaultText}"
  | .notText path => s!"can't read {path}: stream did not contain valid UTF-8"
  | .malformed flaw => s!"invalid config: {flaw.message}"
  | .invalidEvccId id => s!"invalid EVCC id {Text.quoted id}: expected hex bytes"

/-- The name of the kind of a fault. -/
def kind : ConfigurationError → String
  | .unreadable _ | .notText _ => "Io"
  | .malformed _ => "Parse"
  | .invalidEvccId _ => "InvalidEvccId"

end ConfigurationError

namespace Configuration

/-- The octets of the vehicle's identifier, of which there is at least one. -/
def evccIdOctets (configuration : Configuration) : Except ConfigurationError Octets :=
  if configuration.evccId = "" then .error (.invalidEvccId configuration.evccId)
  else
    match Octets.ofHex? configuration.evccId with
    | some octets => .ok octets
    | none => .error (.invalidEvccId configuration.evccId)

/-- Loads a configuration file. -/
def load (directory : Directory) (path : Path) : Except ConfigurationError Configuration :=
  match directory.read path with
  | .error _ => .error (.unreadable (directory.fullPath path))
  | .ok content =>
    if (Octets.toText? content).isNone then .error (.notText (directory.fullPath path))
    else
      match Json.decode content with
      | .error flaw => .error (.malformed flaw)
      | .ok (configuration : Configuration) => do
        let _valid ← configuration.evccIdOctets
        return configuration

/-! ## Single settings -/

/-- Sets the vehicle's identifier. -/
def withEvccId (configuration : Configuration) (evccId : String) : Configuration :=
  { configuration with evccId }

/-- Sets where certificates and keys are kept. -/
def withPkiFolder (configuration : Configuration) (pkiFolder : String) : Configuration :=
  { configuration with pkiFolder }

/-- Sets the longest waits. -/
def withTimeouts (configuration : Configuration) (timeouts : Timeouts) : Configuration :=
  { configuration with timeouts }

/-- Resumes a paused session. -/
def withResume (configuration : Configuration) (choices : Choices) : Configuration :=
  { configuration with resume := some choices }

/-- Sets the simulated vehicle's energy transfer mode. -/
def withEnergyMode (configuration : Configuration) (mode : EnergyTransferMode) : Configuration :=
  { configuration with simulator := { configuration.simulator with energyMode := mode } }

/-- Sets how many rounds of charging the simulated vehicle takes part in. -/
def withChargeLoops (configuration : Configuration) (loops : UInt32) : Configuration :=
  { configuration with simulator := { configuration.simulator with chargeLoops := loops } }

end Configuration

end PlugAndCharge
