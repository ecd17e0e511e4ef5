import Mathlib.Algebra.Group.Nat.Even
import PlugAndCharge.Proofs.ConfigurationFile
import PlugAndCharge.Proofs.Omission

/-!
# Configuration files with members left out

Any members may be missing from a configuration file, from its waits and from its settings of the
simulated vehicle.  What is loaded then has the standard values of these members, and no other value
depends on them.
-/

namespace PlugAndCharge

open Json
open Octets (IsText)

/-! ## The identifier of the vehicle -/

/-- A hexadecimal digit of either case. -/
def IsHexDigit (digit : Char) : Prop :=
  ('0' ≤ digit ∧ digit ≤ '9') ∨ ('a' ≤ digit ∧ digit ≤ 'f') ∨ ('A' ≤ digit ∧ digit ≤ 'F')

/-- A text of one or more pairs of hexadecimal digits. -/
def IsHex (text : String) : Prop :=
  text ≠ "" ∧ Even text.toList.length ∧ ∀ digit ∈ text.toList, IsHexDigit digit

theorem Octets.isSome_hexValue? (digit : Char) : (hexValue? digit).isSome ↔ IsHexDigit digit := by
  rw [hexValue?, IsHexDigit]
  split_ifs <;> simp_all

theorem Octets.isSome_ofHexDigits? (digits : List Char) :
    (ofHexDigits? digits).isSome ↔
      Even digits.length ∧ ∀ digit ∈ digits, IsHexDigit digit := by
  induction digits using ofHexDigits?.induct with
  | case1 => simp [ofHexDigits?]
  | case2 digit => simp [ofHexDigits?]
  | case3 high low rest ih =>
      have pair : (ofHexDigits? (high :: low :: rest)).isSome =
          ((hexValue? high).isSome && (hexValue? low).isSome && (ofHexDigits? rest).isSome) := by
        rw [ofHexDigits?]
        cases hexValue? high <;> cases hexValue? low <;> cases ofHexDigits? rest <;> rfl
      rw [pair, Bool.and_eq_true, Bool.and_eq_true, isSome_hexValue?, isSome_hexValue?, ih]
      simp only [List.length_cons, Nat.even_add_one, not_not, List.forall_mem_cons]
      tauto

namespace Configuration

/-- The identifier stands for octets if it is hexadecimal. -/
theorem exists_evccIdOctets {configuration : Configuration} :
    (∃ octets, configuration.evccIdOctets = .ok octets) ↔ IsHex configuration.evccId := by
  rw [evccIdOctets, IsHex, ← Octets.isSome_ofHexDigits?, ← Octets.ofHex?]
  by_cases isEmpty : configuration.evccId = ""
  · simp [isEmpty]
  · rw [if_neg isEmpty]
    cases Octets.ofHex? configuration.evccId <;> simp [isEmpty]

/-! ## What is left out -/

/-- The names of members that are left out of a configuration file, at each of its levels. -/
structure Omission where
  /-- Of the configuration itself. -/
  top : List String
  timeouts : List String
  simulator : List String

end Configuration

/-- Waits with standard ones in place of those that are left out. -/
def Timeouts.without (omitted : List String) (timeouts : Timeouts) : Timeouts where
  communicationSetup :=
    keptOr omitted "communication_setup" timeouts.communicationSetup standard.communicationSetup
  serviceDiscovery :=
    keptOr omitted "service_discovery" timeouts.serviceDiscovery standard.serviceDiscovery
  serviceDetail := keptOr omitted "service_detail" timeouts.serviceDetail standard.serviceDetail
  paymentServiceSelection :=
    keptOr omitted "payment_service_selection" timeouts.paymentServiceSelection
      standard.paymentServiceSelection
  certificateInstallation :=
    keptOr omitted "certificate_installation" timeouts.certificateInstallation
      standard.certificateInstallation
  paymentDetails := keptOr omitted "payment_details" timeouts.paymentDetails standard.paymentDetails
  authorization := keptOr omitted "authorization" timeouts.authorization standard.authorization
  chargeParameterDiscovery :=
    keptOr omitted "charge_parameter_discovery" timeouts.chargeParameterDiscovery
      standard.chargeParameterDiscovery
  powerDelivery := keptOr omitted "power_delivery" timeouts.powerDelivery standard.powerDelivery
  chargingStatus := keptOr omitted "charging_status" timeouts.chargingStatus standard.chargingStatus
  currentDemand := keptOr omitted "current_demand" timeouts.currentDemand standard.currentDemand
  meteringReceipt :=
    keptOr omitted "metering_receipt" timeouts.meteringReceipt standard.meteringReceipt
  sessionStop := keptOr omitted "session_stop" timeouts.sessionStop standard.sessionStop
  ongoing := keptOr omitted "ongoing" timeouts.ongoing standard.ongoing

/-- Settings with standard ones in place of those that are left out. -/
def VehicleSettings.without (omitted : List String) (settings : VehicleSettings) :
    VehicleSettings where
  energyMode := keptOr omitted "energy_mode" settings.energyMode standard.energyMode
  certInstallNeeded :=
    keptOr omitted "cert_install_needed" settings.certInstallNeeded standard.certInstallNeeded
  chargeLoops := keptOr omitted "charge_loops" settings.chargeLoops standard.chargeLoops
  pauseWhenDone := keptOr omitted "pause_when_done" settings.pauseWhenDone standard.pauseWhenDone
  soc := keptOr omitted "soc" settings.soc standard.soc
  maxVoltage := keptOr omitted "max_voltage" settings.maxVoltage standard.maxVoltage
  maxCurrent := keptOr omitted "max_current" settings.maxCurrent standard.maxCurrent
  minCurrent := keptOr omitted "min_current" settings.minCurrent standard.minCurrent
  energyRequest := keptOr omitted "energy_request" settings.energyRequest standard.energyRequest

instance : Record Timeouts :=
  ⟨_, _, _, fun _ => rfl, fun _ => rfl, fun _ _ => rfl, by decide⟩

instance : Record VehicleSettings :=
  ⟨_, _, _, fun _ => rfl, fun _ => rfl, fun _ _ => rfl, by decide⟩

theorem Timeouts.read_writeWithout (omitted : List String) (timeouts : Timeouts) (rest : Octets) :
    Wire.read (Record.writeWithout omitted timeouts ++ rest) =
      .ok (timeouts.without omitted, rest) :=
  Record.read_writeWithout rfl rest

theorem VehicleSettings.read_writeWithout (omitted : List String) (settings : VehicleSettings)
    (rest : Octets) :
    Wire.read (Record.writeWithout omitted settings ++ rest) =
      .ok (settings.without omitted, rest) :=
  Record.read_writeWithout rfl rest

theorem Timeouts.without_nil (timeouts : Timeouts) : timeouts.without [] = timeouts := by
  simp only [without, keptOr_nil]

theorem VehicleSettings.without_nil (settings : VehicleSettings) :
    settings.without [] = settings := by
  simp only [without, keptOr_nil]

namespace Configuration

instance : Record Configuration :=
  ⟨_, _, _, fun _ => rfl, fun _ => rfl, fun _ _ => rfl, by decide⟩

/-- A configuration with standard values in place of those that are left out. -/
def without (omitted : Omission) (configuration : Configuration) : Configuration where
  evccId := keptOr omitted.top "evcc_id" configuration.evccId standard.evccId
  timeouts :=
    keptOr omitted.top "timeouts" (configuration.timeouts.without omitted.timeouts)
      standard.timeouts
  pkiFolder := keptOr omitted.top "pki_dir" configuration.pkiFolder standard.pkiFolder
  resume := keptOr omitted.top "resume" configuration.resume standard.resume
  simulator :=
    keptOr omitted.top "simulator" (configuration.simulator.without omitted.simulator)
      standard.simulator

/-- The members of a configuration, with members of its parts left out. -/
def partialEntries (omitted : Omission) (configuration : Configuration) : List Entry :=
  [⟨"evcc_id", Wire.write configuration.evccId⟩,
    ⟨"timeouts", Record.writeWithout omitted.timeouts configuration.timeouts⟩,
    ⟨"pki_dir", Wire.write configuration.pkiFolder⟩,
    ⟨"resume", Wire.write configuration.resume⟩,
    ⟨"simulator", Record.writeWithout omitted.simulator configuration.simulator⟩]

/-- A configuration as it is written, with members left out. -/
def writeWithout (omitted : Omission) (configuration : Configuration) : Octets :=
  object (Json.without omitted.top (configuration.partialEntries omitted))

/-- With nothing left out a configuration is written as it is. -/
theorem writeWithout_nothing (configuration : Configuration) :
    configuration.writeWithout ⟨[], [], []⟩ = Wire.write configuration := by
  rw [writeWithout, Json.without_nil, partialEntries, Record.writeWithout_nil,
    Record.writeWithout_nil, Record.write_eq_object configuration]
  rfl

theorem without_nothing (configuration : Configuration) :
    configuration.without ⟨[], [], []⟩ = configuration := by
  simp only [without, keptOr_nil, Timeouts.without_nil, VehicleSettings.without_nil]

theorem read_writeWithout (omitted : Omission) (configuration : Configuration) (rest : Octets) :
    Wire.read (configuration.writeWithout omitted ++ rest) =
      .ok (configuration.without omitted, rest) := by
  have holds : (Record.members (α := Configuration)).Holds (configuration.partialEntries omitted)
      (Record.members.given (Record.toValues { configuration with
        timeouts := configuration.timeouts.without omitted.timeouts
        simulator := configuration.simulator.without omitted.simulator })) :=
    .written rfl <|
    .present (fun _ => configuration.timeouts.read_writeWithout omitted.timeouts _) <|
    .written rfl <|
    .written rfl <|
    .present (fun _ => configuration.simulator.read_writeWithout omitted.simulator _) .nil
  refine Record.read_of_holds (holds.without omitted.top) ?_ rest
  rw [Record.hasDefaults.complete_emptied]
  rfl

theorem isText_writeWithout (omitted : Omission) (configuration : Configuration) :
    IsText (configuration.writeWithout omitted) := by
  have isText : ∀ entry ∈ configuration.partialEntries omitted, IsText entry.content := by
    simp only [partialEntries, List.forall_mem_cons, List.not_mem_nil, false_implies, implies_true,
      and_true]
    exact ⟨TextWire.isText_write _, Record.isText_writeWithout _ _, TextWire.isText_write _,
      TextWire.isText_write _, Record.isText_writeWithout _ _⟩
  exact isText_object fun entry isKept =>
    Entry.isText_text (isText entry (List.mem_of_mem_filter isKept))

/-! ## Loading -/

/-- A configuration with members left out is loaded with their standard values. -/
theorem load_of_read_writeWithout {configuration : Configuration} {directory : Directory}
    {path : Path} {omitted : Omission} (isHex : IsHex configuration.evccId)
    (found : directory.read path = .ok (configuration.writeWithout omitted)) :
    load directory path = .ok (configuration.without omitted) := by
  have decoded : decode (configuration.writeWithout omitted) =
      .ok (configuration.without omitted) := by
    have read_eq := configuration.read_writeWithout omitted []
    rw [List.append_nil] at read_eq
    rw [decode, readAll, read_eq]
    rfl
  obtain ⟨evccId, isIdentified⟩ :
      ∃ evccId, (configuration.without omitted).evccIdOctets = .ok evccId := by
    by_cases isOmitted : "evcc_id" ∈ omitted.top
    · exact ⟨_, evccIdOctets_of_standard (if_pos isOmitted)⟩
    · have kept : (configuration.without omitted).evccId = configuration.evccId :=
        if_neg isOmitted
      rwa [exists_evccIdOctets, kept]
  have isText := (configuration.isText_writeWithout omitted).isSome_toText?
  exact load_eq_ok.mpr ⟨_, evccId, found, isText, decoded, isIdentified⟩

/-- What is written is loaded again, if its identifier is hexadecimal.  If members are left out at
any level, they have their standard values, and everything else is as it was written.  No
configuration is loaded whose identifier is not hexadecimal. -/
theorem missing_members_default :
    (∀ (configuration : Configuration) (directory : Directory) (path : Path),
      IsHex configuration.evccId →
        (directory.read path = .ok (Wire.write configuration) →
          load directory path = .ok configuration) ∧
        ∀ omitted : Omission, directory.read path = .ok (configuration.writeWithout omitted) →
          load directory path = .ok (configuration.without omitted)) ∧
    ∀ (directory : Directory) (path : Path) (configuration : Configuration),
      load directory path = .ok configuration → IsHex configuration.evccId := by
  constructor
  · intro configuration directory path isHex
    refine ⟨fun found => ?_, fun omitted found => load_of_read_writeWithout isHex found⟩
    rw [← writeWithout_nothing] at found
    rw [load_of_read_writeWithout isHex found, without_nothing]
  · intro directory path configuration loaded
    obtain ⟨content, evccId, -, -, -, isIdentified⟩ := load_eq_ok.mp loaded
    exact exists_evccIdOctets.mp ⟨evccId, isIdentified⟩

/-- The standard configuration but for the identifier and two of the waits. -/
def someSet : Configuration :=
  { standard with
    evccId := "AABBCCDDEEFF"
    timeouts := { Timeouts.standard with authorization := 500, ongoing := 5000 } }

/-- A directory with a file that sets no more than that. -/
def someSetDirectory : Directory :=
  { Directory.empty "" with
    files := [(["evcc.json"], Octets.ofText <|
      "\x7b\"evcc_id\":\"AABBCCDDEEFF\",\"timeouts\":" ++
        "\x7b\"authorization\":500,\"ongoing\":5000\x7d\x7d")] }

/-- Everything else has its standard value. -/
theorem load_someSetDirectory : load someSetDirectory ["evcc.json"] = .ok someSet := by
  have found : someSetDirectory.read ["evcc.json"] =
      .ok (someSet.writeWithout
        { top := ["pki_dir", "resume", "simulator"]
          timeouts := (Record.members (α := Timeouts)).names.filter
            (· ∉ ["authorization", "ongoing"])
          simulator := [] }) := by
    decide +kernel
  have isIdentified :
      someSet.evccIdOctets = .ok [0xAA, 0xBB, 0xCC, 0xDD, 0xEE, 0xFF] := by
    decide +kernel
  have isHex := exists_evccIdOctets.mp ⟨_, isIdentified⟩
  exact (missing_members_default.1 _ _ _ isHex).2 _ found

end Configuration

end PlugAndCharge
