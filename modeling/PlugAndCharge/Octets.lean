/-!
# Octet sequences

Messages, certificates, keys and signatures are all sequences of octets.  This module gives the
two conversions that the rest of the library needs: texts as UTF-8, and numbers as big-endian
octets of a fixed width.  Hexadecimal is the form in which identifiers are shown and configured.
Ciphers add sequences octet by octet, and adding the same one again takes it away.
-/

namespace PlugAndCharge

/-- A sequence of octets. -/
abbrev Octets := List UInt8

namespace Octets

/-- The UTF-8 form of a text. -/
def ofText (text : String) : Octets :=
  text.toUTF8.data.toList

/-- The text whose UTF-8 form the octets are, if they are well formed. -/
def toText? (octets : Octets) : Option String :=
  String.fromUTF8? ⟨⟨octets⟩⟩

/-- The octets read as one big-endian number. -/
def toNat (octets : Octets) : Nat :=
  octets.foldl (fun number octet => number * 256 + octet.toNat) 0

/-- The `width` low-order octets of a number, most significant first. -/
def ofNat : (width : Nat) → (number : Nat) → Octets
  | 0, _ => []
  | width + 1, number => ofNat width (number / 256) ++ [UInt8.ofNat (number % 256)]

/-- Writes a number in the fewest octets that hold it; zero takes none. -/
def ofNatMinimal (number : Nat) : Octets :=
  if number = 0 then []
  else ofNatMinimal (number / 256) ++ [UInt8.ofNat (number % 256)]
termination_by number

/-- Adds octet by octet. -/
def add (left right : Octets) : Octets :=
  List.zipWith (· ^^^ ·) left right

/-- One hexadecimal digit, in the case that `ten` begins with (`'a'` or `'A'`). -/
def hexDigit (ten : Char) (value : Nat) : Char :=
  if value < 10 then Char.ofNat ('0'.toNat + value) else Char.ofNat (ten.toNat + (value - 10))

/-- Two hexadecimal digits for each octet. -/
def hexDigits (ten : Char) : Octets → List Char
  | [] => []
  | octet :: rest =>
    hexDigit ten (octet.toNat / 16) :: hexDigit ten (octet.toNat % 16) :: hexDigits ten rest

/-- Lower-case hexadecimal. -/
def toHex (octets : Octets) : String :=
  String.ofList (hexDigits 'a' octets)

/-- Upper-case hexadecimal. -/
def toUpperHex (octets : Octets) : String :=
  String.ofList (hexDigits 'A' octets)

/-- The value of a hexadecimal digit of either case. -/
def hexValue? (digit : Char) : Option Nat :=
  if '0' ≤ digit ∧ digit ≤ '9' then some (digit.toNat - '0'.toNat)
  else if 'a' ≤ digit ∧ digit ≤ 'f' then some (digit.toNat - 'a'.toNat + 10)
  else if 'A' ≤ digit ∧ digit ≤ 'F' then some (digit.toNat - 'A'.toNat + 10)
  else none

/-- Reads pairs of hexadecimal digits of either case; an odd digit out is refused. -/
def ofHexDigits? : List Char → Option Octets
  | [] => some []
  | [_] => none
  | high :: low :: rest => do
    let high ← hexValue? high
    let low ← hexValue? low
    let rest ← ofHexDigits? rest
    return UInt8.ofNat (high * 16 + low) :: rest

/-- The octets that a hexadecimal text stands for. -/
def ofHex? (text : String) : Option Octets :=
  ofHexDigits? text.toList

theorem toText?_ofText (text : String) : toText? (ofText text) = some text := by
  have valid : text.toByteArray.IsValidUTF8 := text.isValidUTF8
  simp [toText?, ofText, String.fromUTF8?, String.toUTF8, valid, String.fromUTF8]

theorem length_ofNat (width number : Nat) : (ofNat width number).length = width := by
  induction width generalizing number with
  | zero => rfl
  | succ width ih => simp [ofNat, ih]

theorem length_add {left right : Octets} (length_eq : left.length = right.length) :
    (add left right).length = right.length := by
  rw [add, List.length_zipWith, length_eq, Nat.min_self]

/-- Adding octets twice changes nothing. -/
theorem add_add_cancel {left right : Octets} (length_eq : left.length = right.length) :
    add left (add left right) = right := by
  induction left generalizing right with
  | nil =>
      obtain rfl := List.length_eq_zero_iff.mp length_eq.symm
      rfl
  | cons octet left ih =>
      obtain ⟨other, right, rfl⟩ := List.exists_cons_of_length_eq_add_one length_eq.symm
      have rest : add left (add left right) = right := ih (Nat.succ.inj length_eq)
      have front : octet ^^^ (octet ^^^ other) = other := by
        rw [← UInt8.xor_assoc, UInt8.xor_self, UInt8.zero_xor]
      calc add (octet :: left) (add (octet :: left) (other :: right))
        _ = (octet ^^^ (octet ^^^ other)) :: add left (add left right) := rfl
        _ = other :: right := by rw [front, rest]

end Octets

end PlugAndCharge
