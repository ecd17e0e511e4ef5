import PlugAndCharge.Json.Wire
import Mathlib.Tactic.Common

/-!
# Integers read back

A written integer is a minus sign, if it is negative, and decimal digits without a leading zero.  It
is read as the integer that it is, whatever follows that is no part of a number, as long as it has
at most 64 bits.
-/

namespace PlugAndCharge
namespace Json

/-- An octet with which a number can go on. -/
def continuesNumber (octet : UInt8) : Bool :=
  isDigit octet || octet == 0x2E || octet == 0x65 || octet == 0x45

/-- Octets that may follow a value: a number cannot go on with them. -/
def Follows (rest : Octets) : Prop :=
  ∀ octet ∈ rest.head?, continuesNumber octet = false

theorem follows_nil : Follows [] := nofun

theorem follows_cons {octet : UInt8} {rest : Octets} :
    Follows (octet :: rest) ↔ continuesNumber octet = false := by
  simp [Follows]

namespace Follows

variable {octet : UInt8} {rest : Octets}

theorem isDigit_eq_false (follows : Follows rest) : rest.head?.any isDigit = false := by
  cases rest with
  | nil => rfl
  | cons octet rest =>
      have ends := follows_cons.mp follows
      simp only [continuesNumber, Bool.or_eq_false_iff] at ends
      exact ends.1.1.1

theorem ne_of_continuesNumber (follows : Follows (octet :: rest)) {other : UInt8}
    (continues : continuesNumber other = true) : octet ≠ other := by
  rintro rfl
  simp [follows_cons.mp follows] at continues

end Follows

/-! ## Digits -/

/-- A decimal digit is a digit and has its value. -/
theorem digit_ofNat : ∀ digit < 10,
    isDigit (UInt8.ofNat (0x30 + digit)) = true ∧
      digitValue (UInt8.ofNat (0x30 + digit)) = digit ∧
      (UInt8.ofNat (0x30 + digit) = 0x30 → digit = 0) := by
  decide

/-- The last digit is the remainder by ten; the quotient, if there is one, stands before it. -/
theorem writeNat_eq (number : Nat) :
    writeNat number =
      (if number < 10 then [] else writeNat (number / 10)) ++
        [UInt8.ofNat (0x30 + number % 10)] := by
  have digit_eq {digit : Nat} (small : digit < 10) :
      UInt8.ofNat digit.digitChar.toNat = UInt8.ofNat (0x30 + digit) :=
    congrArg UInt8.ofNat (Nat.toNat_digitChar_of_lt_ten small)
  unfold writeNat
  rw [Nat.toDigits_eq_if (by decide)]
  split
  · next small => simp [digit_eq small, Nat.mod_eq_of_lt small]
  · simp [digit_eq (Nat.mod_lt number (by decide : 0 < 10))]

theorem isDigit_of_mem_writeNat (number : Nat) :
    ∀ octet ∈ writeNat number, isDigit octet = true := by
  induction number using Nat.strongRecOn with
  | ind number ih =>
      intro octet isMem
      rw [writeNat_eq, List.mem_append, List.mem_singleton] at isMem
      rcases isMem with inFront | rfl
      · split at inFront
        · cases inFront
        · exact ih (number / 10) (by omega) octet inFront
      · exact (digit_ofNat _ (Nat.mod_lt number (by decide))).1

/-- Only zero begins with a zero. -/
theorem writeNat_eq_cons (number : Nat) :
    ∃ first rest, writeNat number = first :: rest ∧ (first = 0x30 → number = 0) := by
  induction number using Nat.strongRecOn with
  | ind number ih =>
      rw [writeNat_eq]
      by_cases small : number < 10
      · refine ⟨_, [], by rw [if_pos small]; rfl, ?_⟩
        rw [Nat.mod_eq_of_lt small]
        exact (digit_ofNat number small).2.2
      · obtain ⟨first, rest, shape, leading⟩ := ih (number / 10) (by omega)
        refine ⟨first, rest ++ [UInt8.ofNat (0x30 + number % 10)], ?_, fun isZero => ?_⟩
        · rw [if_neg small, shape, List.cons_append]
        · have quotient : number / 10 = 0 := leading isZero
          omega

/-- Digits that were taken leave the number that they make to what comes after them. -/
theorem absorb_append {limit number value : Nat} {digits : Octets} (rest : Octets)
    (taken : absorb limit number digits = (value, [])) :
    absorb limit number (digits ++ rest) = absorb limit value rest := by
  induction digits generalizing number with
  | nil =>
      cases taken
      rfl
  | cons digit digits ih =>
      rw [absorb] at taken
      rw [List.cons_append, absorb]
      split at taken
      · next fits =>
        rw [if_pos fits]
        exact ih taken
      · cases taken

/-- Digits make up the number that they were written for. -/
theorem absorb_writeNat {limit number : Nat} (fits : number ≤ limit) :
    absorb limit 0 (writeNat number) = (number, []) := by
  induction number using Nat.strongRecOn with
  | ind number ih =>
      have ⟨_, value, _⟩ := digit_ofNat (number % 10) (Nat.mod_lt number (by decide))
      rw [writeNat_eq]
      by_cases small : number < 10
      · have same : number % 10 = number := Nat.mod_eq_of_lt small
        rw [if_pos small, List.nil_append, absorb, value, same, Nat.zero_mul, Nat.zero_add,
          if_pos fits, absorb]
      · have front := ih (number / 10) (by omega) (by omega)
        have whole : number / 10 * 10 + number % 10 = number := by omega
        rw [if_neg small, absorb_append _ front, absorb, value, whole, if_pos fits, absorb]

/-! ## Numbers -/

/-- The digits of a number end where what follows it begins. -/
theorem span_writeNat (number : Nat) {rest : Octets} (follows : Follows rest) :
    (writeNat number ++ rest).takeWhile isDigit = writeNat number ∧
      (writeNat number ++ rest).dropWhile isDigit = rest := by
  have ends := follows.isDigit_eq_false
  rw [List.takeWhile_append_of_pos (isDigit_of_mem_writeNat number),
    List.dropWhile_append_of_pos (isDigit_of_mem_writeNat number)]
  cases rest with
  | nil => simp
  | cons octet rest =>
      have notDigit : isDigit octet = false := ends
      simp [notDigit]

theorem readMagnitude_writeNat (negative : Bool) {number : Nat} {rest : Octets}
    (fits : number ≤ maxWord) (follows : Follows rest) :
    readMagnitude negative (writeNat number ++ rest) = .ok (signed negative number, rest) := by
  obtain ⟨first, digits, shape, leading⟩ := writeNat_eq_cons number
  obtain ⟨taken, left⟩ := span_writeNat number follows
  have absorbed := absorb_writeNat fits
  have isDigit_first : isDigit first = true :=
    isDigit_of_mem_writeNat number first (by rw [shape]; exact List.mem_cons_self)
  have noLeadingZero : ¬(first = 0x30 ∧ (digits ++ rest).head?.any isDigit = true) := by
    rintro ⟨isZero, more⟩
    have digits_eq : digits = [] := by
      rw [leading isZero] at shape
      exact (List.cons.inj shape).2.symm
    rw [digits_eq, List.nil_append, follows.isDigit_eq_false] at more
    cases more
  rw [shape, List.cons_append] at taken left ⊢
  rw [← shape] at taken
  simp only [readMagnitude, isDigit_first, not_true_eq_false, if_false, noLeadingZero, taken, left,
    absorbed, if_true]
  cases rest with
  | nil => rfl
  | cons octet rest =>
      have notPoint : octet ≠ 0x2E := follows.ne_of_continuesNumber (by decide)
      have notLower : octet ≠ 0x65 := follows.ne_of_continuesNumber (by decide)
      have notUpper : octet ≠ 0x45 := follows.ne_of_continuesNumber (by decide)
      simp only [notPoint, notLower, notUpper, or_self, if_false]

/-- An integer of at most 64 bits, signed or unsigned. -/
def IsWord (value : Int) : Prop := -(wordCount 63 : Int) ≤ value ∧ value ≤ maxWord

/-- A written integer begins with a digit or with a minus sign. -/
theorem writeInt_eq_cons (value : Int) :
    ∃ octet rest, writeInt value = octet :: rest ∧ (octet = minus ∨ isDigit octet = true) := by
  cases value with
  | ofNat number =>
      obtain ⟨first, digits, shape, -⟩ := writeNat_eq_cons number
      refine ⟨first, digits, shape, .inr ?_⟩
      exact isDigit_of_mem_writeNat number first (by rw [shape]; exact List.mem_cons_self)
  | negSucc number => exact ⟨minus, _, rfl, .inl rfl⟩

theorem readNumber_writeInt {value : Int} {rest : Octets} (isWord : IsWord value)
    (follows : Follows rest) :
    readNumber (writeInt value ++ rest) = .ok (.integer value, rest) := by
  obtain ⟨low, high⟩ := isWord
  cases value with
  | ofNat number =>
      obtain ⟨first, digits, shape, -⟩ := writeNat_eq_cons number
      have isDigit_first : isDigit first = true :=
        isDigit_of_mem_writeNat number first (by rw [shape]; exact List.mem_cons_self)
      have notMinus : first ≠ minus := by
        rintro rfl
        revert isDigit_first
        decide
      have magnitude := readMagnitude_writeNat false (Int.ofNat_le.mp high) follows
      rw [shape, List.cons_append] at magnitude
      rw [writeInt, shape, List.cons_append, readNumber, if_neg notMinus, magnitude]
      rfl
  | negSucc number =>
      have small : number + 1 ≤ wordCount 63 := by omega
      have fits : number + 1 ≤ maxWord := Nat.le_trans small (by decide)
      rw [writeInt, List.cons_append, readNumber, if_pos rfl, readMagnitude_writeNat true fits follows]
      simp only [signed, if_true, Nat.succ_pos, small, and_self]
      rfl

theorem isBlank_eq_false_of_isNumeral {octet : UInt8}
    (isNumeral : octet = minus ∨ isDigit octet = true) : isBlank octet = false := by
  rw [Bool.eq_false_iff]
  intro blank
  simp only [isBlank, Bool.or_eq_true, beq_iff_eq] at blank
  rcases blank with ((rfl | rfl) | rfl) | rfl <;> exact absurd isNumeral (by decide)

theorem readIntegerWithin_writeInt {low high value : Int} {rest : Octets} (isWord : IsWord value)
    (within : low ≤ value ∧ value ≤ high) (follows : Follows rest) :
    readIntegerWithin low high (writeInt value ++ rest) = .ok (value, rest) := by
  obtain ⟨octet, digits, shape, isNumeral⟩ := writeInt_eq_cons value
  have number := readNumber_writeInt isWord follows
  rw [shape, List.cons_append] at number ⊢
  rw [readIntegerWithin, skipBlanks_cons _ (isBlank_eq_false_of_isNumeral isNumeral)]
  simp only [isNumeral, if_true, number, within, and_self]

/-! ## Fixed widths -/

theorem readUnsigned_writeNat {width number : Nat} {rest : Octets} (narrow : width ≤ 64)
    (fits : number < wordCount width) (follows : Follows rest) :
    readUnsigned width (writeNat number ++ rest) = .ok (number, rest) := by
  have word : wordCount width ≤ wordCount 64 := Nat.pow_le_pow_right (by decide) narrow
  have isWord : IsWord (number : Int) := by
    constructor
    · omega
    · have : number ≤ maxWord := by unfold maxWord; omega
      exact_mod_cast this
  have within : (0 : Int) ≤ number ∧ (number : Int) ≤ wordCount width - 1 := by omega
  have read := readIntegerWithin_writeInt isWord within follows
  rw [readUnsigned, show writeNat number = writeInt number from rfl, read]
  rfl

theorem readSigned_writeInt {width : Nat} {value : Int} {rest : Octets} (narrow : width ≤ 64)
    (within : -(wordCount (width - 1) : Int) ≤ value ∧ value < wordCount (width - 1))
    (follows : Follows rest) :
    readSigned width (writeInt value ++ rest) = .ok (value, rest) := by
  have word : wordCount (width - 1) ≤ wordCount 63 := Nat.pow_le_pow_right (by decide) (by omega)
  have largest : wordCount 63 ≤ maxWord := by decide
  have isWord : IsWord value := by
    constructor <;> omega
  exact readIntegerWithin_writeInt isWord ⟨within.1, by omega⟩ follows

end Json
end PlugAndCharge
