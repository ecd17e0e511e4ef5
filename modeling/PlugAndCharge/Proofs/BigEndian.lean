import PlugAndCharge.Octets
import Mathlib.Data.List.Induction
import Mathlib.Tactic.Ring

/-!
# Numbers as octets

A number written most significant octet first is read back up to a multiple of the width's range.
Both conversions work at the low-order end, so the octets are taken apart from the right.
-/

namespace PlugAndCharge
namespace Octets

@[simp] theorem toNat_nil : toNat [] = 0 := rfl

theorem toNat_append_singleton (octets : Octets) (octet : UInt8) :
    toNat (octets ++ [octet]) = toNat octets * 256 + octet.toNat := by
  simp [toNat]

/-- Writing keeps the low-order octets of a number. -/
theorem toNat_ofNat (width number : Nat) : toNat (ofNat width number) = number % 256 ^ width := by
  induction width generalizing number with
  | zero => simp [ofNat, Nat.mod_one]
  | succ width ih =>
    have digit : (UInt8.ofNat (number % 256)).toNat = number % 256 := by simp
    rw [ofNat, toNat_append_singleton, ih, digit, Nat.pow_succ', Nat.mod_mul]
    omega

/-- A number in the range of a width is read back as it is. -/
theorem toNat_ofNat_of_lt {width number : Nat} (small : number < 256 ^ width) :
    toNat (ofNat width number) = number := by
  rw [toNat_ofNat, Nat.mod_eq_of_lt small]

/-- Octets are what their number is written as in their own width. -/
theorem ofNat_toNat (octets : Octets) : ofNat octets.length (toNat octets) = octets := by
  induction octets using List.reverseRecOn with
  | nil => rfl
  | append_singleton octets octet ih =>
    have octet_lt := octet.toNat_lt
    have front : (toNat octets * 256 + octet.toNat) / 256 = toNat octets := by omega
    have last : (toNat octets * 256 + octet.toNat) % 256 = octet.toNat := by omega
    rw [List.length_append, List.length_singleton, ofNat, toNat_append_singleton, front, last, ih,
      UInt8.ofNat_toNat]

theorem toNat_lt (octets : Octets) : toNat octets < 256 ^ octets.length :=
  calc toNat octets = toNat (ofNat octets.length (toNat octets)) := by rw [ofNat_toNat]
    _ = toNat octets % 256 ^ octets.length := toNat_ofNat _ _
    _ < 256 ^ octets.length := Nat.mod_lt _ (Nat.pow_pos (by decide))

/-- Octets that fill a width are a number in its range. -/
theorem exists_ofNat_eq {octets : Octets} {width : Nat} (fills : octets.length = width) :
    ∃ number < 256 ^ width, ofNat width number = octets := by
  subst fills
  exact ⟨toNat octets, toNat_lt octets, ofNat_toNat octets⟩

end Octets
end PlugAndCharge
