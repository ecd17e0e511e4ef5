import Mathlib.Data.List.Basic
import PlugAndCharge.Octets

/-!
# Octets that are texts

Octets are a text if characters have been written one after another in UTF-8.  A character of ASCII
is written as the octet with its number, and no octet of any other character is one of ASCII.  So
octets of ASCII can be replaced in a text without a look at the characters around them.
-/

namespace PlugAndCharge
namespace Octets

variable {octet : UInt8} {octets : Octets}

/-! ## Characters -/

/-- In UTF-8 a character of ASCII is the octet with its number. -/
theorem utf8EncodeChar_ofNat (isAscii : octet < 0x80) :
    String.utf8EncodeChar (Char.ofNat octet.toNat) = [octet] := by
  have small : octet.toNat < 128 := isAscii
  have valid : octet.toNat.isValidChar := .inl (by omega)
  have number_eq : (Char.ofNat octet.toNat).val.toNat = octet.toNat := by
    rw [Char.ofNat, dif_pos valid]
    rfl
  unfold String.utf8EncodeChar
  simp only [number_eq]
  rw [if_pos (by omega), UInt8.ofNat_toNat]

theorem le_ofNat {number : Nat} (low : 128 ≤ number) (high : number < 256) :
    0x80 ≤ UInt8.ofNat number := by
  rw [UInt8.le_iff_toNat_le, UInt8.toNat_ofNat', Nat.mod_eq_of_lt high]
  exact low

/-- A character is an octet of ASCII, or none of its octets is one. -/
theorem utf8EncodeChar_eq_singleton_or (character : Char) :
    (∃ octet < 0x80, String.utf8EncodeChar character = [octet]) ∨
      ∀ octet ∈ String.utf8EncodeChar character, 0x80 ≤ octet := by
  have last {number : Nat} : 0x80 ≤ UInt8.ofNat (number % 64 + 128) :=
    le_ofNat (by omega) (by omega)
  unfold String.utf8EncodeChar
  dsimp only
  split
  next small =>
    refine .inl ⟨_, ?_, rfl⟩
    rw [UInt8.lt_iff_toNat_lt, UInt8.toNat_ofNat', Nat.mod_eq_of_lt (by omega)]
    exact Nat.lt_succ_of_le small
  next =>
    right
    -- The first octet tells the width, two to four; the others are 128 and six bits of the number.
    split
    next =>
      rw [List.forall_mem_cons, List.forall_mem_singleton]
      exact ⟨le_ofNat (by omega) (by omega), last⟩
    next =>
      split
      next =>
        rw [List.forall_mem_cons, List.forall_mem_cons, List.forall_mem_singleton]
        exact ⟨le_ofNat (by omega) (by omega), last, last⟩
      next =>
        rw [List.forall_mem_cons, List.forall_mem_cons, List.forall_mem_cons,
          List.forall_mem_singleton]
        exact ⟨le_ofNat (by omega) (by omega), last, last, last⟩

/-! ## Texts -/

/-- Octets are a text if they are the UTF-8 forms of characters, one after another. -/
def IsText (octets : Octets) : Prop :=
  ∃ characters : List Char, characters.flatMap String.utf8EncodeChar = octets

theorem ofText_ofList (characters : List Char) :
    ofText (String.ofList characters) = characters.flatMap String.utf8EncodeChar := by
  simp [ofText, List.utf8Encode]

theorem isText_ofText (text : String) : IsText (ofText text) :=
  ⟨text.toList, by rw [← ofText_ofList, String.ofList_toList]⟩

/-- A text can be read as one. -/
theorem IsText.isSome_toText? (isText : IsText octets) : (toText? octets).isSome = true := by
  obtain ⟨characters, rfl⟩ := isText
  rw [← ofText_ofList, toText?_ofText]
  rfl

theorem IsText.nil : IsText [] := ⟨[], rfl⟩

theorem IsText.append {front back : Octets} (first : IsText front) (second : IsText back) :
    IsText (front ++ back) := by
  obtain ⟨characters, rfl⟩ := first
  obtain ⟨others, rfl⟩ := second
  exact ⟨characters ++ others, List.flatMap_append⟩

theorem IsText.cons (isAscii : octet < 0x80) (isText : IsText octets) :
    IsText (octet :: octets) := by
  have single : IsText [octet] :=
    ⟨[Char.ofNat octet.toNat], by rw [List.flatMap_singleton, utf8EncodeChar_ofNat isAscii]⟩
  exact single.append isText

/-- Octets of ASCII are a text. -/
theorem isText_of_ascii (isAscii : ∀ octet ∈ octets, octet < 0x80) : IsText octets := by
  induction octets with
  | nil => exact .nil
  | cons octet octets ih =>
      obtain ⟨isAsciiFirst, isAsciiRest⟩ := List.forall_mem_cons.mp isAscii
      exact .cons isAsciiFirst (ih isAsciiRest)

/-- A text in which octets of ASCII are replaced by texts is a text. -/
theorem IsText.flatMap {replace : UInt8 → Octets}
    (isText_ascii : ∀ octet < 0x80, IsText (replace octet))
    (keeps : ∀ octet, 0x80 ≤ octet → replace octet = [octet]) (isText : IsText octets) :
    IsText (octets.flatMap replace) := by
  obtain ⟨characters, rfl⟩ := isText
  induction characters with
  | nil => exact .nil
  | cons character characters ih =>
      rw [List.flatMap_cons, List.flatMap_append]
      refine .append ?_ ih
      rcases utf8EncodeChar_eq_singleton_or character with ⟨octet, isAscii, shape⟩ | beyond
      · rw [shape, List.flatMap_singleton]
        exact isText_ascii octet isAscii
      · have kept : (String.utf8EncodeChar character).flatMap replace =
            String.utf8EncodeChar character := by
          rw [List.flatMap_congr fun octet isMember => keeps octet (beyond octet isMember),
            List.flatMap_singleton']
        rw [kept]
        exact ⟨[character], List.flatMap_singleton _ _⟩

end Octets
end PlugAndCharge
