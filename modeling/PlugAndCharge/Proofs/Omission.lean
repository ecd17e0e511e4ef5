import PlugAndCharge.Proofs.Record
import PlugAndCharge.Proofs.TextForm

/-!
# Records with members left out

An object that lacks some of the members of a record is read as the record with the defaults of
these members, if they have any, and with everything else as it was written.
-/

namespace PlugAndCharge
namespace Json

/-- The members but for those of some names. -/
def without (omitted : List String) (entries : List Entry) : List Entry :=
  entries.filter (·.name ∉ omitted)

/-- A value, or the default in its place if its member is left out. -/
def keptOr {α : Type} (omitted : List String) (name : String) (value default : α) : α :=
  if name ∈ omitted then default else value

theorem without_nil (entries : List Entry) : without [] entries = entries := by
  simp [without]

theorem keptOr_nil {α : Type} (name : String) (value default : α) :
    keptOr [] name value default = value :=
  if_neg List.not_mem_nil

namespace Members

variable {α γ σ : Type} {members : Members γ σ} {omitted : List String}

/-! ## Members that are left out -/

/-- The slots but for those of members that are left out. -/
def emptied (omitted : List String) {γ σ : Type} : Members γ σ → σ → σ
  | .nil, _ => ()
  | .cons member members, (slot, slots) =>
    (keptOr omitted member.name slot none, members.emptied omitted slots)

/-- The members that are left hold what they held before. -/
theorem Holds.without {entries : List Entry} {slots : σ} (holds : Holds members entries slots)
    (omitted : List String) :
    Holds members (without omitted entries) (members.emptied omitted slots) := by
  induction holds with
  | nil => exact .nil
  | missing _ ih =>
      rw [emptied, keptOr, ite_self]
      exact .missing ih
  | @present _ _ _ member _ entries _ content _ read_eq _ ih =>
      rw [emptied, keptOr]
      by_cases isOmitted : member.name ∈ omitted
      · have left : Json.without omitted (⟨member.name, content⟩ :: entries) =
            Json.without omitted entries :=
          List.filter_cons_of_neg (by simpa using isOmitted)
        rw [if_pos isOmitted, left]
        exact .missing ih
      · have kept : Json.without omitted (⟨member.name, content⟩ :: entries) =
            ⟨member.name, content⟩ :: Json.without omitted entries :=
          List.filter_cons_of_pos (by simpa using isOmitted)
        rw [if_neg isOmitted, kept]
        exact .present read_eq ih

/-- The values with the defaults of the members that are left out. -/
def defaulted (omitted : List String) {γ σ : Type} : Members γ σ → γ → γ
  | .nil, _ => ()
  | .cons member members, (value, values) =>
    (keptOr omitted member.name value (member.absent.getD value),
      members.defaulted omitted values)

/-- A member may be missing. -/
class HasDefault {α : Type} (member : Member α) : Prop where
  isSome_absent : member.absent.isSome

instance [Wire α] (name : String) (default : α) :
    HasDefault (Member.withDefault name default) where
  isSome_absent := rfl

/-- Every member may be missing. -/
class HasDefaults {γ σ : Type} (members : Members γ σ) : Prop where
  complete_emptied (omitted : List String) (values : γ) :
    members.complete (members.emptied omitted (members.given values)) =
      .ok (members.defaulted omitted values)

instance : HasDefaults .nil where
  complete_emptied _ _ := rfl

instance {member : Member α} [LawfulMember member] [hasDefault : HasDefault member]
    [rest : HasDefaults members] : HasDefaults (.cons member members) where
  complete_emptied := by
    rintro omitted ⟨value, values⟩
    rw [given, emptied, complete, rest.complete_emptied, defaulted, keptOr, keptOr]
    obtain ⟨default, absent_eq⟩ := Option.isSome_iff_exists.mp hasDefault.isSome_absent
    by_cases isOmitted : member.name ∈ omitted
    · simp only [if_pos isOmitted, absent_eq, Option.none_or, Option.getD_some]
      rfl
    · simp only [if_neg isOmitted]
      cases written : member.write? value with
      | none =>
          simp only [Option.map_none, Option.none_or, LawfulMember.absent_eq written]
          rfl
      | some octets => rfl

end Members

/-! ## Records -/

open Octets (IsText)

theorem isText_object {entries : List Entry} (isText : ∀ entry ∈ entries, IsText entry.text) :
    IsText (object entries) :=
  isText_braces (List.forall_mem_map.mpr isText)

theorem Entry.isText_text {entry : Entry} (isText : IsText entry.content) : IsText entry.text :=
  (isText_writeText entry.name).append (.cons (by decide) isText)

/-- A structure whose wire form is that of a record, all of whose members may be missing. -/
class Record (α : Type) [Wire α] where
  {γ σ : Type}
  members : Members γ σ
  toValues : α → γ
  ofRead : γ × Octets → α × Octets
  write_eq : ∀ value : α, Wire.write value = members.write (toValues value)
  read_eq : ∀ input, (Wire.read input : Except Flaw (α × Octets)) =
    (members.read input).map ofRead
  ofRead_toValues : ∀ value rest, ofRead (toValues value, rest) = (value, rest)
  distinct : members.names.Nodup
  [lawful : members.Lawful]
  [hasDefaults : members.HasDefaults]
  [textForm : members.TextForm]

namespace Record

variable {α : Type} [Wire α] [record : Record α] {omitted : List String}

/-- The members in which a value is written. -/
def entries (value : α) : List Entry :=
  record.members.entries (toValues value)

theorem write_eq_object (value : α) : Wire.write value = object (entries value) := by
  rw [write_eq, Members.write_eq_object, entries]

theorem isText_of_mem_entries (value : α) : ∀ entry ∈ entries value, IsText entry.text := by
  have isText := record.textForm.isText_written (toValues value)
  rw [Members.written_eq] at isText
  exact List.forall_mem_map.mp isText

/-- A value is read from the members that hold it. -/
theorem read_of_holds {entries : List Entry} {slots : record.σ} {value : α}
    (holds : record.members.Holds entries slots)
    (complete_eq : record.members.complete slots = .ok (toValues value)) (rest : Octets) :
    Wire.read (object entries ++ rest) = .ok (value, rest) := by
  rw [read_eq, holds.read distinct complete_eq]
  exact congrArg Except.ok (ofRead_toValues value rest)

/-- The object in which a value is written, with members left out. -/
def writeWithout (omitted : List String) (value : α) : Octets :=
  object (without omitted (entries value))

theorem writeWithout_nil (value : α) : writeWithout [] value = Wire.write value := by
  rw [writeWithout, without_nil, write_eq_object]

/-- Members that are left out are read as their defaults. -/
theorem read_writeWithout {value expected : α}
    (defaulted_eq : record.members.defaulted omitted (toValues value) = toValues expected)
    (rest : Octets) :
    Wire.read (writeWithout omitted value ++ rest) = .ok (expected, rest) := by
  refine read_of_holds ((record.lawful.holds (toValues value)).without omitted) ?_ rest
  rw [record.hasDefaults.complete_emptied, defaulted_eq]

theorem isText_writeWithout (omitted : List String) (value : α) :
    IsText (writeWithout omitted value) :=
  isText_object fun entry isKept =>
    isText_of_mem_entries value entry (List.mem_of_mem_filter isKept)

end Record

end Json
end PlugAndCharge
