import PlugAndCharge.Configuration.Basic
import PlugAndCharge.Proofs.RoundTrip
import PlugAndCharge.Proofs.TextForm

/-!
# Configurations read back

A configuration that has been written into a file is loaded from it, if the vehicle's identifier in
it is one.
-/

namespace PlugAndCharge

open Json

/-! ## The parts of a configuration -/

instance : LawfulWire Choices :=
  lawful_record (fun _ => rfl) (fun _ => rfl) (by decide) fun _ _ => rfl

instance : TextWire Choices := textWire_record fun _ => rfl

instance : LawfulWire Timeouts :=
  lawful_record (fun _ => rfl) (fun _ => rfl) (by decide) fun _ _ => rfl

instance : TextWire Timeouts := textWire_record fun _ => rfl

instance : LawfulWire VehicleSettings :=
  lawful_record (fun _ => rfl) (fun _ => rfl) (by decide) fun _ _ => rfl

instance : TextWire VehicleSettings := textWire_record fun _ => rfl

namespace Configuration

instance : LawfulWire Configuration :=
  lawful_record (fun _ => rfl) (fun _ => rfl) (by decide) fun _ _ => rfl

instance : TextWire Configuration := textWire_record fun _ => rfl

/-! ## Files -/

variable {configuration : Configuration} {directory written : Directory} {path : Path}

/-- The identifier that holds unless another is set is one. -/
theorem evccIdOctets_of_standard (isStandard : configuration.evccId = standard.evccId) :
    configuration.evccIdOctets = .ok [0x0A, 0x1B, 0x2C, 0x3D, 0x4E, 0x5F] := by
  have same : configuration.evccIdOctets = standard.evccIdOctets := by
    rw [evccIdOctets, evccIdOctets, isStandard]
  rw [same]
  decide +kernel

/-- A configuration is loaded from a text that holds it, if it has an identifier for the vehicle. -/
theorem load_eq_ok : load directory path = .ok configuration ↔
    ∃ content evccId, directory.read path = .ok content ∧
      (Octets.toText? content).isSome = true ∧ decode content = .ok configuration ∧
      configuration.evccIdOctets = .ok evccId := by
  rw [load]
  constructor
  · intro loaded
    cases found : directory.read path with
    | error error =>
        rw [found] at loaded
        cases loaded
    | ok content =>
        rw [found] at loaded
        cases isNone : (Octets.toText? content).isNone with
        | true => simp [isNone] at loaded
        | false =>
            cases decoded : (decode content : Except Flaw Configuration) with
            | error flaw => simp [isNone, decoded] at loaded
            | ok read =>
                simp only [isNone, decoded, Bool.false_eq_true, if_false] at loaded
                cases isIdentified : read.evccIdOctets with
                | error error =>
                    rw [isIdentified] at loaded
                    cases loaded
                | ok evccId =>
                    rw [isIdentified] at loaded
                    obtain rfl : read = configuration := Except.ok.inj loaded
                    exact ⟨content, evccId, rfl, Option.isNone_eq_false_iff.mp isNone, decoded,
                      isIdentified⟩
  · rintro ⟨content, evccId, found, isText, decoded, isIdentified⟩
    simp only [found, Option.isNone_eq_false_iff.mpr isText, Bool.false_eq_true, if_false, decoded,
      isIdentified]
    rfl

/-- A configuration with an identifier for the vehicle is loaded from the file that it has been
written into. -/
theorem load_of_write {evccId : Octets} (isIdentified : configuration.evccIdOctets = .ok evccId)
    (stored : directory.write path (Wire.write configuration) = .ok written) :
    load written path = .ok configuration := by
  refine load_eq_ok.mpr ⟨Wire.write configuration, evccId, ?_, ?_, decode_write _, isIdentified⟩
  · rw [Directory.read, Directory.get?_write stored, if_pos rfl]
  · exact (TextWire.isText_write configuration).isSome_toText?

end Configuration
end PlugAndCharge
