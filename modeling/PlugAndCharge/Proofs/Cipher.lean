import Mathlib.Data.LawfulXor.Basic
import Mathlib.Data.List.Basic
import PlugAndCharge.Crypto.Aes128

/-!
# Undoing the block cipher

Each layer of a round is undone by its counterpart, so the rounds are undone in reverse order.  The
layer that mixes columns changes nothing when it is applied four times: applied twice it adds the
same octet to both entries of a pair, which is undone by doing it again.
-/

namespace PlugAndCharge
namespace Aes128

/-- The length of a block and of a round key. -/
def blockLength : Nat := 16

/-! ## Adding -/

theorem xor_left_comm (first second third : UInt8) :
    first ^^^ (second ^^^ third) = second ^^^ (first ^^^ third) := by
  rw [← xor_assoc, xor_comm first, xor_assoc]

/-! ## Substituting -/

/-- The entries of the box stand in the inverse one where they came from. -/
theorem map_substitution :
    substitution.toList.map (lookUp inverseSubstitution) = (List.range 256).map UInt8.ofNat := by
  decide +kernel

theorem lookUp_inverse (octet : UInt8) :
    lookUp inverseSubstitution (lookUp substitution octet) = octet := by
  have entry := congrArg (fun octets => octets[octet.toNat]?) map_substitution
  simp only [List.getElem?_map, List.getElem?_range octet.toNat_lt, Array.getElem?_toList,
    Option.map_some, UInt8.ofNat_toNat, Option.map_eq_some_iff] at entry
  obtain ⟨image, found, undone⟩ := entry
  have image_eq : lookUp substitution octet = image := by rw [lookUp, found, Option.getD_some]
  rw [image_eq]
  exact undone

theorem map_lookUp_inverse (state : Octets) :
    (state.map (lookUp substitution)).map (lookUp inverseSubstitution) = state := by
  simp only [List.map_map, Function.comp_def, lookUp_inverse, List.map_id']

/-! ## Shifting rows -/

theorem length_shiftRows {state : Octets} (isBlock : state.length = blockLength) :
    (shiftRows state).length = blockLength := by
  match state, isBlock with
  | [_, _, _, _, _, _, _, _, _, _, _, _, _, _, _, _], _ => rfl

theorem unshiftRows_shiftRows {state : Octets} (isBlock : state.length = blockLength) :
    unshiftRows (shiftRows state) = state := by
  match state, isBlock with
  | [_, _, _, _, _, _, _, _, _, _, _, _, _, _, _, _], _ => rfl

/-! ## Mixing columns -/

/-- The octet that is added to one that is shifted out of range. -/
def reduction (carry : Bool) : UInt8 := if carry then 0x1B else 0

theorem double_eq (octet : UInt8) :
    double octet = octet <<< 1 ^^^ reduction octet.toBitVec.msb := by
  have small : octet < 0x80 ↔ octet.toBitVec.msb = false := by
    rw [BitVec.msb_eq_decide, decide_eq_false_iff_not, Nat.not_le, UInt8.lt_iff_toNat_lt]
    rfl
  by_cases isSmall : octet < 0x80
  · rw [double, if_pos isSmall, small.mp isSmall]
    exact (xor_zero _).symm
  · rw [double, if_neg isSmall, eq_true_of_ne_false (mt small.mpr isSmall)]
    rfl

theorem reduction_xor (left right : Bool) :
    reduction (left ^^ right) = reduction left ^^^ reduction right := by
  cases left <;> cases right <;> rfl

/-- Doubling distributes over adding. -/
theorem double_xor (left right : UInt8) : double (left ^^^ right) = double left ^^^ double right := by
  rw [double_eq, double_eq, double_eq, UInt8.toBitVec_xor, BitVec.msb_xor, reduction_xor,
    UInt8.shiftLeft_xor]
  ac_rfl

/-- Adds to each entry of a column four times the sum of the entry and the one across from it. -/
def addAcross (a b c d : UInt8) : Octets :=
  let even := double (double (a ^^^ c))
  let odd := double (double (b ^^^ d))
  [a ^^^ even, b ^^^ odd, c ^^^ even, d ^^^ odd]

theorem mixColumns_mixColumns (a b c d : UInt8) :
    mixColumns (mixColumns [a, b, c, d]) = addAcross a b c d := by
  -- As doubling distributes, an entry is a sum of multiples of octets, and those in it twice cancel.
  simp only [mixColumns, addAcross, double_xor, UInt8.xor_assoc, xor_left_comm, UInt8.xor_comm,
    xor_cancel_left, UInt8.xor_self, UInt8.xor_zero, UInt8.zero_xor]

/-- Adding across keeps the sum of two entries, so doing it again takes away what was added. -/
theorem addAcross_cancel (a b c d : UInt8) :
    let even := double (double (a ^^^ c))
    let odd := double (double (b ^^^ d))
    addAcross (a ^^^ even) (b ^^^ odd) (c ^^^ even) (d ^^^ odd) = [a, b, c, d] := by
  intro even odd
  have keeps (left right added : UInt8) :
      left ^^^ added ^^^ (right ^^^ added) = left ^^^ right := by
    rw [xor_assoc, xor_comm right, xor_cancel_left]
  simp only [addAcross, keeps, even, odd, xor_cancel_right]

/-- Mixing four times changes nothing. -/
theorem mixColumns_four (a b c d : UInt8) :
    mixColumns (mixColumns (mixColumns (mixColumns [a, b, c, d]))) = [a, b, c, d] := by
  rw [mixColumns_mixColumns]
  exact (mixColumns_mixColumns ..).trans (addAcross_cancel a b c d)

theorem unmixColumns_append {a b c d : UInt8} {rest : Octets} :
    unmixColumns ([a, b, c, d] ++ rest) = mixColumns (addAcross a b c d) ++ unmixColumns rest := rfl

theorem unmixColumns_mixColumns_append (a b c d : UInt8) (rest : Octets) :
    unmixColumns (mixColumns [a, b, c, d] ++ rest) = [a, b, c, d] ++ unmixColumns rest := by
  obtain ⟨a', b', c', d', mixed⟩ : ∃ a' b' c' d', mixColumns [a, b, c, d] = [a', b', c', d'] :=
    ⟨_, _, _, _, rfl⟩
  rw [mixed, unmixColumns_append, ← mixColumns_mixColumns, ← mixed, mixColumns_four]

/-- A sequence of columns is one column after another. -/
theorem columns_induction (holds : Octets → Prop) (empty : holds [])
    (column : ∀ a b c d rest, holds rest → holds ([a, b, c, d] ++ rest)) {state : Octets}
    (divides : 4 ∣ state.length) : holds state := by
  obtain ⟨count, length_eq⟩ := divides
  induction count generalizing state with
  | zero =>
      obtain rfl := List.length_eq_zero_iff.mp length_eq
      exact empty
  | succ count ih =>
      match state, length_eq with
      | a :: b :: c :: d :: rest, length_eq =>
        refine column a b c d rest (ih ?_)
        simp only [List.length_cons] at length_eq
        omega

theorem mixColumns_append (a b c d : UInt8) (rest : Octets) :
    mixColumns ([a, b, c, d] ++ rest) = mixColumns [a, b, c, d] ++ mixColumns rest := rfl

theorem length_mixColumns {state : Octets} (divides : 4 ∣ state.length) :
    (mixColumns state).length = state.length := by
  refine columns_induction (fun state => (mixColumns state).length = state.length) rfl ?_ divides
  intro a b c d rest ih
  rw [mixColumns_append, List.length_append, List.length_append, ih]
  rfl

theorem unmixColumns_mixColumns {state : Octets} (divides : 4 ∣ state.length) :
    unmixColumns (mixColumns state) = state := by
  refine columns_induction (fun state => unmixColumns (mixColumns state) = state) rfl ?_ divides
  intro a b c d rest ih
  rw [mixColumns_append, unmixColumns_mixColumns_append, ih]

/-! ## Rounds -/

/-- The front of a round, before its key is added. -/
theorem length_substituted {state : Octets} (isBlock : state.length = blockLength) :
    (shiftRows (state.map (lookUp substitution))).length = blockLength :=
  length_shiftRows ((List.length_map _).trans isBlock)

theorem unsubstitute {state : Octets} (isBlock : state.length = blockLength) :
    (unshiftRows (shiftRows (state.map (lookUp substitution)))).map (lookUp inverseSubstitution) =
      state := by
  rw [unshiftRows_shiftRows ((List.length_map _).trans isBlock), map_lookUp_inverse]

theorem length_mixed {state : Octets} (isBlock : state.length = blockLength) :
    (mixColumns (shiftRows (state.map (lookUp substitution)))).length = blockLength := by
  have length_eq := length_substituted isBlock
  rw [length_mixColumns (by rw [length_eq]; decide), length_eq]

theorem length_encryptRounds {state : Octets} {keys : List Octets}
    (areKeys : ∀ key ∈ keys, key.length = blockLength) (isBlock : state.length = blockLength) :
    (encryptRounds state keys).length = blockLength := by
  fun_induction encryptRounds state keys with
  | case1 state => exact isBlock
  | case2 state last =>
      have last_eq := areKeys last List.mem_cons_self
      exact (Octets.length_add (last_eq.trans (length_substituted isBlock).symm)).trans
        (length_substituted isBlock)
  | case3 state key keys several ih =>
      have key_eq := areKeys key List.mem_cons_self
      refine ih (fun other isOther => areKeys other (List.mem_cons_of_mem _ isOther)) ?_
      exact (Octets.length_add (key_eq.trans (length_mixed isBlock).symm)).trans (length_mixed isBlock)

/-- The rounds are undone from the last one on. -/
theorem decryptRounds_encryptRounds {state : Octets} {keys : List Octets}
    (areKeys : ∀ key ∈ keys, key.length = blockLength) (isBlock : state.length = blockLength) :
    decryptRounds (encryptRounds state keys) keys = state := by
  fun_induction encryptRounds state keys with
  | case1 state => rfl
  | case2 state last =>
      have last_eq := areKeys last List.mem_cons_self
      rw [decryptRounds, Octets.add_add_cancel (last_eq.trans (length_substituted isBlock).symm)]
      exact unsubstitute isBlock
  | case3 state key keys several ih =>
      have key_eq := areKeys key List.mem_cons_self
      have same_length := key_eq.trans (length_mixed isBlock).symm
      have undone := ih (fun other isOther => areKeys other (List.mem_cons_of_mem _ isOther))
        ((Octets.length_add same_length).trans (length_mixed isBlock))
      have divides : 4 ∣ (shiftRows (state.map (lookUp substitution))).length := by
        rw [length_substituted isBlock]
        decide
      rw [decryptRounds.eq_3 _ _ _ several, undone, Octets.add_add_cancel same_length,
        unmixColumns_mixColumns divides, unsubstitute isBlock]

/-! ## Blocks -/

theorem length_nextRoundKey {constant : UInt8} {key : Octets} (isKey : key.length = blockLength) :
    (nextRoundKey constant key).length = blockLength := by
  match key, isKey with
  | [_, _, _, _, _, _, _, _, _, _, _, _, _, _, _, _], _ => rfl

theorem length_of_mem_roundKeysFrom {key : Octets} {constants : List UInt8}
    (isKey : key.length = blockLength) :
    ∀ roundKey ∈ roundKeysFrom key constants, roundKey.length = blockLength := by
  induction constants generalizing key with
  | nil => simp [roundKeysFrom]
  | cons constant constants ih =>
      have next_eq : (nextRoundKey constant key).length = blockLength := length_nextRoundKey isKey
      exact List.forall_mem_cons.mpr ⟨next_eq, ih next_eq⟩

theorem length_encryptBlock {key block : Octets} (isKey : key.length = blockLength)
    (isBlock : block.length = blockLength) : (encryptBlock key block).length = blockLength :=
  length_encryptRounds (length_of_mem_roundKeysFrom isKey)
    ((Octets.length_add (isKey.trans isBlock.symm)).trans isBlock)

/-- Decrypting a block undoes encrypting it. -/
theorem decryptBlock_encryptBlock {key block : Octets} (isKey : key.length = blockLength)
    (isBlock : block.length = blockLength) : decryptBlock key (encryptBlock key block) = block := by
  have same_length := isKey.trans isBlock.symm
  rw [decryptBlock, encryptBlock, decryptRounds_encryptRounds (length_of_mem_roundKeysFrom isKey)
    ((Octets.length_add same_length).trans isBlock), Octets.add_add_cancel same_length]

end Aes128
end PlugAndCharge
