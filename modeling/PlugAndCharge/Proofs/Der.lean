import PlugAndCharge.Encoding.Oid
import PlugAndCharge.Proofs.BigEndian

/-!
# Reading DER back

An element that is written is read back in front of any rest, so readers take what is written piece
by piece.  Each reader that a key file calls for has one lemma on what it takes.
-/

namespace PlugAndCharge

/-! ## Lengths -/

namespace Octets

theorem toNat_ofNatMinimal (number : Nat) : toNat (ofNatMinimal number) = number := by
  induction number using ofNatMinimal.induct with
  | case1 => rw [ofNatMinimal, if_pos rfl, toNat_nil]
  | case2 number isPositive ih =>
      have digit : (UInt8.ofNat (number % 256)).toNat = number % 256 := by simp
      rw [ofNatMinimal, if_neg isPositive, toNat_append_singleton, ih, digit]
      omega

theorem length_ofNatMinimal_le {number width : Nat} (small : number < 256 ^ width) :
    (ofNatMinimal number).length ≤ width := by
  induction width generalizing number with
  | zero =>
      obtain rfl : number = 0 := by omega
      rw [ofNatMinimal, if_pos rfl]
      exact le_rfl
  | succ width ih =>
      rw [ofNatMinimal]
      split
      · exact Nat.zero_le _
      · have quotient : number / 256 < 256 ^ width := by
          rw [Nat.div_lt_iff_lt_mul (by decide)]
          rwa [Nat.pow_succ] at small
        have length_le := ih quotient
        rw [List.length_append, List.length_singleton]
        omega

theorem ofNatMinimal_ne_nil {number : Nat} (positive : 0 < number) : ofNatMinimal number ≠ [] := by
  rw [ofNatMinimal, if_neg positive.ne']
  simp

end Octets

namespace Der

variable {tag : UInt8} {content rest : Octets}

/-- A length is read back, as long as it is not too large to be read at all. -/
theorem readLength?_encodeLength {length : Nat} (readable : length ≤ maxLength) (rest : Octets) :
    readLength? (encodeLength length ++ rest) = some (length, rest) := by
  by_cases isShort : length < 0x80
  · have value : (UInt8.ofNat length).toNat = length := by
      rw [UInt8.toNat_ofNat']
      omega
    have below : UInt8.ofNat length < 0x80 := by
      rw [UInt8.lt_iff_toNat_lt, value]
      exact isShort
    rw [encodeLength, if_pos isShort, List.singleton_append, readLength?, if_pos below, value]
  · have few : (Octets.ofNatMinimal length).length ≤ 4 :=
      Octets.length_ofNatMinimal_le (readable.trans_lt (by decide))
    have some_ : 0 < (Octets.ofNatMinimal length).length :=
      List.length_pos_iff.mpr (Octets.ofNatMinimal_ne_nil (by omega))
    have encode_eq : encodeLength length =
        UInt8.ofNat (0x80 + (Octets.ofNatMinimal length).length) :: Octets.ofNatMinimal length := by
      rw [encodeLength, if_neg isShort]
    have value : (UInt8.ofNat (0x80 + (Octets.ofNatMinimal length).length)).toNat =
        0x80 + (Octets.ofNatMinimal length).length := by
      rw [UInt8.toNat_ofNat']
      omega
    have notBelow : ¬UInt8.ofNat (0x80 + (Octets.ofNatMinimal length).length) < 0x80 := by
      rw [UInt8.lt_iff_toNat_lt, value]
      exact Nat.not_lt.mpr (Nat.le_add_right _ _)
    have count_eq : (UInt8.ofNat (0x80 + (Octets.ofNatMinimal length).length)).toNat - 0x80 =
        (Octets.ofNatMinimal length).length := by
      rw [value, Nat.add_sub_cancel_left]
    have counted : 0 < (Octets.ofNatMinimal length).length ∧
        (Octets.ofNatMinimal length).length ≤ 4 ∧
        (Octets.ofNatMinimal length).length ≤ (Octets.ofNatMinimal length ++ rest).length :=
      ⟨some_, few, by simp⟩
    rw [encode_eq, List.cons_append, readLength?, if_neg notBelow]
    simp only [count_eq]
    rw [if_pos counted, List.take_left, List.drop_left, Octets.toNat_ofNatMinimal,
      if_pos ⟨readable, encode_eq⟩]

/-! ## Elements -/

/-- Tag and length take six octets at most. -/
theorem length_encode_le (tag : UInt8) (readable : content.length ≤ maxLength) :
    (encode tag content).length ≤ content.length + 6 := by
  have few : (Octets.ofNatMinimal content.length).length ≤ 4 :=
    Octets.length_ofNatMinimal_le (readable.trans_lt (by decide))
  have length_le : (encodeLength content.length).length ≤ 5 := by
    rw [encodeLength]
    split
    · simp
    · rw [List.length_cons]
      omega
  change (tag :: (encodeLength content.length ++ content)).length ≤ _
  rw [List.length_cons, List.length_append]
  omega

/-- An element is read back. -/
theorem readElement?_encode (isTag_tag : isTag tag = true) (readable : content.length ≤ maxLength)
    (rest : Octets) :
    readElement? (encode tag content ++ rest) = some (⟨tag, content⟩, rest) := by
  have length_le : content.length ≤ (content ++ rest).length := by simp
  rw [encode, Element.encode, List.cons_append, readElement?, if_pos isTag_tag, List.append_assoc,
    readLength?_encodeLength readable]
  simp only [Option.bind_eq_bind, Option.bind_some]
  rw [if_pos length_le, List.take_left, List.drop_left]

theorem element_encode (isTag_tag : isTag tag = true) (readable : content.length ≤ maxLength)
    (rest : Octets) : element tag (encode tag content ++ rest) = some (content, rest) := by
  simp [element, readElement?_encode isTag_tag readable]

theorem whole?_eq_some {α : Type} {reader : Reader α} {value : α}
    (reads : reader content = some (value, [])) : whole? reader content = some value := by
  simp [whole?, reads]

theorem nested_encode {α : Type} {reader : Reader α} {value : α} (isTag_tag : isTag tag = true)
    (readable : content.length ≤ maxLength) (reads : reader content = some (value, []))
    (rest : Octets) : nested tag reader (encode tag content ++ rest) = some (value, rest) := by
  simp [nested, element_encode isTag_tag readable, whole?_eq_some reads]

end Der
end PlugAndCharge
