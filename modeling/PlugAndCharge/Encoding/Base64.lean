import PlugAndCharge.Octets

/-!
# Base64

The encoding of RFC 4648 with padding.  Reading is strict: the padding must be there and the bits it
stands for must be zero, so every sequence of octets has one written form.
-/

namespace PlugAndCharge
namespace Base64

/-- The padding character `=`. -/
def padding : UInt8 := 0x3D

/-- The character for six bits. -/
def digit (value : Nat) : UInt8 :=
  if value < 26 then UInt8.ofNat (0x41 + value)
  else if value < 52 then UInt8.ofNat (0x61 + (value - 26))
  else if value < 62 then UInt8.ofNat (0x30 + (value - 52))
  else if value = 62 then 0x2B
  else 0x2F

/-- The six bits of a character. -/
def value? (character : UInt8) : Option Nat :=
  if 0x41 ≤ character ∧ character ≤ 0x5A then some (character.toNat - 0x41)
  else if 0x61 ≤ character ∧ character ≤ 0x7A then some (character.toNat - 0x61 + 26)
  else if 0x30 ≤ character ∧ character ≤ 0x39 then some (character.toNat - 0x30 + 52)
  else if character = 0x2B then some 62
  else if character = 0x2F then some 63
  else none

/-- Writes octets. -/
def encode : Octets → Octets
  | [] => []
  | [a] => [digit (a.toNat / 4), digit (a.toNat % 4 * 16), padding, padding]
  | [a, b] =>
    [digit (a.toNat / 4), digit (a.toNat % 4 * 16 + b.toNat / 16), digit (b.toNat % 16 * 4),
     padding]
  | a :: b :: c :: rest =>
    digit (a.toNat / 4) :: digit (a.toNat % 4 * 16 + b.toNat / 16) ::
      digit (b.toNat % 16 * 4 + c.toNat / 64) :: digit (c.toNat % 64) :: encode rest

/-- Reads octets. -/
def decode? : Octets → Option Octets
  | [] => some []
  | a :: b :: c :: d :: rest => do
    let a ← value? a
    let b ← value? b
    if c = padding ∧ d = padding ∧ rest = [] then
      if b % 16 = 0 then some [UInt8.ofNat (a * 4 + b / 16)] else none
    else
      let c ← value? c
      if d = padding ∧ rest = [] then
        if c % 4 = 0 then
          some [UInt8.ofNat (a * 4 + b / 16), UInt8.ofNat (b % 16 * 16 + c / 4)]
        else none
      else
        let d ← value? d
        let rest ← decode? rest
        some (UInt8.ofNat (a * 4 + b / 16) :: UInt8.ofNat (b % 16 * 16 + c / 4) ::
          UInt8.ofNat (c % 4 * 64 + d) :: rest)
  | _ => none

end Base64
end PlugAndCharge
