import Mathlib.Data.List.Basic
import Mathlib.Tactic.IntervalCases
import PlugAndCharge.Encoding.Pem

/-!
# Reading PEM back

What is written in PEM is read back under the same label.  The characters of base64 tell six bits
each, and no line end is among them, so the lines are found again where they were cut.
-/

namespace PlugAndCharge

/-! ## Base64 -/

namespace Base64

variable {value : Nat}

@[simp] theorem value?_digit (small : value < 64) : value? (digit value) = some value := by
  interval_cases value <;> rfl

@[simp] theorem digit_ne_padding (small : value < 64) : digit value ≠ padding := by
  interval_cases value <;> decide

/-- No character is a control character or beyond ASCII. -/
theorem digit_bounds (small : value < 64) : 0x20 < digit value ∧ digit value < 0x80 := by
  interval_cases value <;> decide

private theorem ofNat_eq {octet : UInt8} {number : Nat} (same : number = octet.toNat) :
    UInt8.ofNat number = octet := by
  rw [same, UInt8.ofNat_toNat]

/-- Octets that are written are read back. -/
theorem decode?_encode (octets : Octets) : decode? (encode octets) = some octets := by
  induction octets using encode.induct with
  | case1 => rfl
  | case2 a =>
      have a_lt := a.toNat_lt
      have unusedBits : a.toNat % 4 * 16 % 16 = 0 := by omega
      have first : UInt8.ofNat (a.toNat / 4 * 4 + a.toNat % 4 * 16 / 16) = a :=
        ofNat_eq (by omega)
      rw [encode, decode?, value?_digit (by omega), value?_digit (by omega)]
      simp only [Option.bind_eq_bind, Option.bind_some, and_self, if_true, unusedBits, first]
  | case3 a b =>
      have a_lt := a.toNat_lt
      have b_lt := b.toNat_lt
      have third_lt : b.toNat % 16 * 4 < 64 := by omega
      have unusedBits : b.toNat % 16 * 4 % 4 = 0 := by omega
      have first : UInt8.ofNat (a.toNat / 4 * 4 + (a.toNat % 4 * 16 + b.toNat / 16) / 16) = a :=
        ofNat_eq (by omega)
      have second : UInt8.ofNat ((a.toNat % 4 * 16 + b.toNat / 16) % 16 * 16 +
          b.toNat % 16 * 4 / 4) = b := ofNat_eq (by omega)
      rw [encode, decode?, value?_digit (by omega), value?_digit (by omega)]
      simp only [Option.bind_eq_bind, Option.bind_some, digit_ne_padding third_lt, false_and,
        if_false, value?_digit third_lt, and_self, if_true, unusedBits, first, second]
  | case4 a b c rest ih =>
      have a_lt := a.toNat_lt
      have b_lt := b.toNat_lt
      have c_lt := c.toNat_lt
      have third_lt : b.toNat % 16 * 4 + c.toNat / 64 < 64 := by omega
      have fourth_lt : c.toNat % 64 < 64 := by omega
      have first : UInt8.ofNat (a.toNat / 4 * 4 + (a.toNat % 4 * 16 + b.toNat / 16) / 16) = a :=
        ofNat_eq (by omega)
      have second : UInt8.ofNat ((a.toNat % 4 * 16 + b.toNat / 16) % 16 * 16 +
          (b.toNat % 16 * 4 + c.toNat / 64) / 4) = b := ofNat_eq (by omega)
      have third : UInt8.ofNat ((b.toNat % 16 * 4 + c.toNat / 64) % 4 * 64 + c.toNat % 64) = c :=
        ofNat_eq (by omega)
      rw [encode, decode?, value?_digit (by omega), value?_digit (by omega)]
      simp only [Option.bind_eq_bind, Option.bind_some, digit_ne_padding third_lt,
        digit_ne_padding fourth_lt, false_and, if_false, value?_digit third_lt,
        value?_digit fourth_lt, ih, first, second, third]

theorem bounds_of_mem_encode {octets : Octets} {character : UInt8}
    (isCharacter : character ∈ encode octets) : 0x20 < character ∧ character < 0x80 := by
  induction octets using encode.induct with
  | case1 => cases isCharacter
  | case2 a =>
      have a_lt := a.toNat_lt
      simp only [encode, List.mem_cons, List.not_mem_nil, or_false] at isCharacter
      obtain rfl | rfl | rfl | rfl := isCharacter
      · exact digit_bounds (by omega)
      · exact digit_bounds (by omega)
      · decide
      · decide
  | case3 a b =>
      have a_lt := a.toNat_lt
      have b_lt := b.toNat_lt
      simp only [encode, List.mem_cons, List.not_mem_nil, or_false] at isCharacter
      obtain rfl | rfl | rfl | rfl := isCharacter
      · exact digit_bounds (by omega)
      · exact digit_bounds (by omega)
      · exact digit_bounds (by omega)
      · decide
  | case4 a b c rest ih =>
      have a_lt := a.toNat_lt
      have b_lt := b.toNat_lt
      have c_lt := c.toNat_lt
      simp only [encode, List.mem_cons] at isCharacter
      obtain rfl | rfl | rfl | rfl | isCharacter := isCharacter
      · exact digit_bounds (by omega)
      · exact digit_bounds (by omega)
      · exact digit_bounds (by omega)
      · exact digit_bounds (by omega)
      · exact ih isCharacter

theorem encode_ne_nil {octets : Octets} (notNil : octets ≠ []) : encode octets ≠ [] := by
  cases octets using encode.induct <;> simp_all [encode]

end Base64

/-! ## Lines -/

namespace Pem

theorem afterFront?_append (front rest : Octets) :
    afterFront? front (front ++ rest) = some rest := by
  simp [afterFront?]

theorem beforeEnd?_append (front tail : Octets) : beforeEnd? tail (front ++ tail) = some front := by
  simp [beforeEnd?]

/-- A line feed alone ends a line, if there is no carriage return before it. -/
theorem beforeLineEnd?_append {front : Octets} (noReturn : front.getLast? ≠ some 0x0D) :
    beforeLineEnd? (front ++ [0x0A]) = some front := by
  obtain rfl | ⟨front, octet, rfl⟩ := List.eq_nil_or_concat' front
  · rfl
  · have notReturn : octet ≠ 0x0D := by simpa using noReturn
    unfold beforeLineEnd?
    simp only [List.reverse_append, List.reverse_singleton, List.singleton_append]
    split <;> simp_all

/-- A text that has been cut into lines is put together again. -/
theorem exists_wrap_eq {lines : Nat} {text : Octets} (notNil : text ≠ [])
    (fits : text.length ≤ lineLength * lines) :
    ∃ body, wrap lines text = body ++ [0x0A] ∧ text.length ≤ body.length ∧
      body.getLast? = text.getLast? ∧
      ∀ steps, text.length < steps → unwrap? steps body = some text := by
  induction lines generalizing text with
  | zero =>
      have length_pos := List.length_pos_iff.mpr notNil
      omega
  | succ lines ih =>
      rw [wrap, if_neg notNil]
      by_cases isLast : text.length ≤ lineLength
      · refine ⟨text, ?_, le_rfl, rfl, fun steps enough => ?_⟩
        · rw [List.take_of_length_le isLast, List.drop_of_length_le isLast]
          cases lines <;> rfl
        · obtain ⟨steps, rfl⟩ := Nat.exists_eq_add_one_of_ne_zero (by omega : steps ≠ 0)
          rw [unwrap?, if_pos isLast]
      · have restNotNil : text.drop lineLength ≠ [] := by
          simpa using isLast
        have length_drop : (text.drop lineLength).length = text.length - lineLength :=
          List.length_drop
        have restFits : (text.drop lineLength).length ≤ lineLength * lines := by
          rw [Nat.mul_succ] at fits
          omega
        obtain ⟨body, wrap_eq, length_le, last_eq, unwrapped⟩ := ih restNotNil restFits
        have bodyNotNil : body ≠ [] := by
          rintro rfl
          exact restNotNil (List.length_eq_zero_iff.mp (Nat.le_zero.mp length_le))
        have length_take : (text.take lineLength).length = lineLength := by
          rw [List.length_take]
          omega
        refine ⟨text.take lineLength ++ 0x0A :: body, by rw [wrap_eq]; simp, ?_, ?_, ?_⟩
        · rw [List.length_append, List.length_cons]
          omega
        · rw [List.getLast?_append_of_ne_nil _ (List.cons_ne_nil _ _),
            List.getLast?_cons_of_ne_nil bodyNotNil, last_eq, List.getLast?_drop, if_neg isLast]
        · intro steps enough
          obtain ⟨steps, rfl⟩ := Nat.exists_eq_add_one_of_ne_zero (by omega : steps ≠ 0)
          have isLong : ¬(text.take lineLength ++ 0x0A :: body).length ≤ lineLength := by
            rw [List.length_append, length_take, List.length_cons]
            omega
          have length_pos : 0 < lineLength := by decide
          have rest_eq := unwrapped steps (by omega)
          rw [unwrap?, if_neg isLong, List.drop_left' length_take, List.take_left' length_take,
            afterLineEnd?]
          simp only [Option.bind_eq_bind, Option.bind_some, rest_eq]
          exact congrArg some (List.take_append_drop lineLength text)

/-- Octets that are written under a label are read back under this label. -/
theorem decode?_encode {octets : Octets} (label : String) (notNil : octets ≠ []) :
    decode? label (encode label octets) = some octets := by
  have textNotNil := Base64.encode_ne_nil notNil
  have fits : (Base64.encode octets).length ≤
      lineLength * ((Base64.encode octets).length / lineLength + 1) :=
    (Nat.lt_mul_div_succ _ (by decide)).le
  obtain ⟨body, wrap_eq, length_le, last_eq, unwrapped⟩ := exists_wrap_eq textNotNil fits
  have noReturn : body.getLast? ≠ some 0x0D := by
    rw [last_eq]
    intro isReturn
    have bounds := Base64.bounds_of_mem_encode (List.mem_of_getLast? isReturn)
    exact absurd bounds.1 (by decide)
  -- What is read of a document, from the end of the opening boundary on.
  have closing : (body ++ [0x0A] ++ (ending ++ Octets.ofText label ++ dashes)).getLast? ≠
      some 0x0D := by
    have dashes_last : dashes.getLast? = some 0x2D := by decide
    have dashesNotNil : dashes ≠ [] := by decide
    rw [← List.append_assoc, List.getLast?_append_of_ne_nil _ dashesNotNil, dashes_last]
    decide
  have encode_eq : encode label octets = beginning ++ Octets.ofText label ++ dashes ++
      (0x0A :: (body ++ [0x0A] ++ (ending ++ Octets.ofText label ++ dashes) ++ [0x0A])) := by
    simp [encode, wrap_eq]
  have begins : beginning.isPrefixOf (encode label octets) = true := by
    simp [encode_eq]
  unfold decode?
  simp only [begins, if_true]
  rw [encode_eq]
  simp only [Option.bind_eq_bind, Option.bind_some, afterFront?_append, afterLineEnd?,
    beforeLineEnd?_append closing, Option.getD_some, beforeEnd?_append,
    beforeLineEnd?_append noReturn, unwrapped _ (Nat.lt_add_one_of_le length_le),
    Base64.decode?_encode]

/-- Cutting a text into lines adds nothing but line ends. -/
theorem mem_wrap {lines : Nat} {text : Octets} {octet : UInt8} (isOctet : octet ∈ wrap lines text) :
    octet = 0x0A ∨ octet ∈ text := by
  induction lines generalizing text with
  | zero => cases isOctet
  | succ lines ih =>
      rw [wrap] at isOctet
      split at isOctet
      · cases isOctet
      · obtain inLine | isOctet := List.mem_append.mp isOctet
        · exact .inr (List.mem_of_mem_take inLine)
        · obtain isEnd | inRest := List.mem_cons.mp isOctet
          · exact .inl isEnd
          · exact (ih inRest).imp_right List.mem_of_mem_drop

/-- A document under a label of ASCII is ASCII. -/
theorem ascii_encode {label : String} {octets : Octets}
    (isAscii : ∀ octet ∈ Octets.ofText label, octet < 0x80) :
    ∀ octet ∈ encode label octets, octet < 0x80 := by
  have inBeginning : ∀ octet ∈ beginning, octet < 0x80 := by decide +kernel
  have inEnding : ∀ octet ∈ ending, octet < 0x80 := by decide +kernel
  have inDashes : ∀ octet ∈ dashes, octet < 0x80 := by decide +kernel
  have inLines : ∀ lines, ∀ octet ∈ wrap lines (Base64.encode octets), octet < 0x80 := by
    intro lines octet isOctet
    obtain rfl | isCharacter := mem_wrap isOctet
    · decide
    · exact (Base64.bounds_of_mem_encode isCharacter).2
  intro octet isOctet
  simp only [encode, List.mem_append, List.mem_cons, List.not_mem_nil, or_false] at isOctet
  grind

end Pem
end PlugAndCharge
