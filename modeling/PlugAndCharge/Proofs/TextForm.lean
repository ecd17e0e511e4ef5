import PlugAndCharge.Proofs.Numeral
import PlugAndCharge.Json.Record
import PlugAndCharge.Proofs.Utf8

/-!
# Written values are texts

Whatever is written as JSON is UTF-8.  Only the strings in it can have octets beyond ASCII, and
these are octets of the texts that the strings stand for: writing a text replaces octets of ASCII by
others of ASCII and keeps the rest.
-/

namespace PlugAndCharge
namespace Json

open Octets (IsText isText_of_ascii isText_ofText)

/-- Every value is written as a text. -/
class TextWire (α : Type) [Wire α] : Prop where
  isText_write (value : α) : IsText (Wire.write value)

/-! ## Truth values and texts -/

/-- Words are of ASCII. -/
theorem ascii_words : ∀ word ∈ [rue, alse, ull], ∀ octet ∈ word, octet < 0x80 := by
  -- Octet by octet along the word, not for each of all octets whether it is in the word.
  have areAscii : ∀ word ∈ [rue, alse, ull], word.all (· < 0x80) = true := by decide +kernel
  simpa only [List.all_eq_true, decide_eq_true_eq] using areAscii

instance : TextWire Bool where
  isText_write value := by
    cases value with
    | false => exact .cons (by decide) (isText_of_ascii (ascii_words alse (by simp)))
    | true => exact .cons (by decide) (isText_of_ascii (ascii_words rue (by simp)))

/-- Escapes are of ASCII. -/
theorem ascii_escapeOctet :
    ∀ number < 128, ∀ octet ∈ escapeOctet (UInt8.ofNat number), octet < 0x80 := by
  have areAscii : ∀ number < 128, (escapeOctet (UInt8.ofNat number)).all (· < 0x80) = true := by
    decide +kernel
  simpa only [List.all_eq_true, decide_eq_true_eq] using areAscii

/-- Octets beyond ASCII are written as they are. -/
theorem escapeOctet_eq_singleton :
    ∀ number < 256, 128 ≤ number →
      escapeOctet (UInt8.ofNat number) = [UInt8.ofNat number] := by
  decide +kernel

theorem isText_writeText (text : String) : IsText (writeText text) := by
  have escaped : IsText ((Octets.ofText text).flatMap escapeOctet) := by
    refine (isText_ofText text).flatMap (fun octet isAscii => ?_) fun octet isBeyond => ?_
    · have ascii := ascii_escapeOctet octet.toNat isAscii
      rw [UInt8.ofNat_toNat] at ascii
      exact isText_of_ascii ascii
    · have kept := escapeOctet_eq_singleton octet.toNat octet.toNat_lt isBeyond
      rwa [UInt8.ofNat_toNat] at kept
  exact .cons (by decide) (escaped.append (.cons (by decide) .nil))

instance : TextWire String := ⟨isText_writeText⟩

/-! ## Integers -/

theorem isText_writeNat (number : Nat) : IsText (writeNat number) := by
  refine isText_of_ascii fun octet isMember => ?_
  have digit := isDigit_of_mem_writeNat number octet isMember
  simp only [isDigit, Bool.and_eq_true, decide_eq_true_eq] at digit
  exact UInt8.lt_of_le_of_lt digit.2 (by decide)

theorem isText_writeInt (value : Int) : IsText (writeInt value) := by
  cases value with
  | ofNat number => exact isText_writeNat number
  | negSucc number => exact .cons (by decide) (isText_writeNat (number + 1))

instance : TextWire UInt32 := ⟨fun value => isText_writeNat value.toNat⟩

instance : TextWire UInt64 := ⟨fun value => isText_writeNat value.toNat⟩

instance : TextWire Int8 := ⟨fun value => isText_writeInt value.toInt⟩

instance : TextWire Int16 := ⟨fun value => isText_writeInt value.toInt⟩

/-! ## Optional values and enumerations -/

instance {α : Type} [Wire α] [TextWire α] : TextWire (Option α) where
  isText_write value := by
    cases value with
    | none => exact .cons (by decide) (isText_of_ascii (ascii_words ull (by simp)))
    | some value => exact TextWire.isText_write value

instance {α : Type} [Enumeration α] : TextWire α :=
  ⟨fun value => isText_writeText (Enumeration.name value)⟩

/-! ## Records -/

/-- A member has texts for values, if they are written at all. -/
class TextMember {α : Type} (member : Member α) : Prop where
  isText_write? (value : α) : ∀ octets ∈ member.write? value, IsText octets

instance {α : Type} [Wire α] [TextWire α] (name : String) (default : α) :
    TextMember (Member.withDefault name default) where
  isText_write? value octets isWritten := by
    obtain rfl : Wire.write value = octets := Option.some.inj isWritten
    exact TextWire.isText_write value

instance {α : Type} [Wire α] [TextWire α] (name : String) :
    TextMember (Member.omissible (α := α) name) where
  isText_write? value octets isWritten := by
    obtain ⟨value, -, rfl⟩ := Option.map_eq_some_iff.mp isWritten
    exact TextWire.isText_write value

theorem isText_commaSeparated {parts : List Octets} (isText : ∀ part ∈ parts, IsText part) :
    IsText (commaSeparated parts) := by
  induction parts with
  | nil => exact .nil
  | cons part parts ih =>
      obtain ⟨isTextFirst, isTextRest⟩ := List.forall_mem_cons.mp isText
      cases parts with
      | nil => exact isTextFirst
      | cons next parts => exact isTextFirst.append (.cons (by decide) (ih isTextRest))

/-- An object is a text if its members are. -/
theorem isText_braces {parts : List Octets} (isText : ∀ part ∈ parts, IsText part) :
    IsText (openBrace :: (commaSeparated parts ++ [closeBrace])) :=
  .cons (by decide) ((isText_commaSeparated isText).append (.cons (by decide) .nil))

namespace Members

variable {α γ σ : Type} {members : Members γ σ}

/-- The written members are texts. -/
class TextForm {γ σ : Type} (members : Members γ σ) : Prop where
  isText_written (values : γ) : ∀ octets ∈ members.written values, IsText octets

instance : TextForm .nil := ⟨fun _ _ isMember => absurd isMember List.not_mem_nil⟩

instance {member : Member α} [TextMember member] [rest : TextForm members] :
    TextForm (.cons member members) where
  isText_written := by
    rintro ⟨value, values⟩
    rw [written]
    cases isWritten : member.write? value with
    | none => exact rest.isText_written values
    | some octets =>
        refine List.forall_mem_cons.mpr ⟨?_, rest.isText_written values⟩
        have isText := TextMember.isText_write? value octets isWritten
        exact (isText_writeText member.name).append (.cons (by decide) isText)

theorem isText_write [form : TextForm members] (values : γ) : IsText (members.write values) :=
  isText_braces (form.isText_written values)

end Members

/-- A structure is written as a text if its members are. -/
theorem textWire_record {α γ σ : Type} [Wire α] {members : Members γ σ} {toValues : α → γ}
    (write_eq : ∀ value : α, Wire.write value = members.write (toValues value))
    [members.TextForm] : TextWire α where
  isText_write value := write_eq value ▸ members.isText_write (toValues value)

end Json
end PlugAndCharge
