import PlugAndCharge.Octets
import PlugAndCharge.Text.Unprintable

/-!
# Quoted texts

A text that a message to the user repeats stands in quotes, and characters that would not be seen
are written as escapes.
-/

namespace PlugAndCharge
namespace Text

/-- The hexadecimal digits of a number, without leading zeros. -/
def hexNumber (number : Nat) : List Char :=
  Nat.toDigits 16 number

/-- One character inside quotes. -/
def quotedCharacter (character : Char) : List Char :=
  if character = '\x00' then ['\\', '0']
  else if character = '\t' then ['\\', 't']
  else if character = '\n' then ['\\', 'n']
  else if character = '\r' then ['\\', 'r']
  else if character = '"' then ['\\', '"']
  else if character = '\\' then ['\\', '\\']
  else if isUnprintable character then
    ['\\', 'u', '\x7b'] ++ hexNumber character.toNat ++ ['\x7d']
  else [character]

/-- A text in quotes. -/
def quoted (text : String) : String :=
  String.ofList ('"' :: (text.toList.flatMap quotedCharacter ++ ['"']))

end Text
end PlugAndCharge
