import PlugAndCharge.Octets

/-!
# Reading JSON octet by octet

A reader takes octets from the front of a text and returns a value with the octets that follow it.
Reading is typed and happens in one pass, so the flaw that is reported is always the leftmost one,
and a value of the wrong type is noticed before whatever comes after it is looked at.
-/

namespace PlugAndCharge
namespace Json

/-- Why a text is refused. -/
inductive Flaw where
  /-- The text ends before its value does. -/
  | truncated
  /-- The text is not JSON. -/
  | malformed
  /-- The text is JSON but not of the wanted shape. -/
  | mistyped
  deriving DecidableEq, Repr

/-- A flaw in words: its category in angle brackets. -/
def Flaw.message : Flaw → String
  | .truncated => "<json:eof>"
  | .malformed => "<json:syntax>"
  | .mistyped => "<json:data>"

/-- A computation that takes octets from the front of a text. -/
abbrev Reader (α : Type) := Octets → Except Flaw (α × Octets)

/-! ## The octets that structure a text -/

/-- The quotation mark. -/
@[match_pattern] abbrev quote : UInt8 := 0x22
/-- The backslash. -/
@[match_pattern] abbrev backslash : UInt8 := 0x5C
/-- The brace that opens an object. -/
@[match_pattern] abbrev openBrace : UInt8 := 0x7B
/-- The brace that closes an object. -/
@[match_pattern] abbrev closeBrace : UInt8 := 0x7D
/-- The bracket that opens an array. -/
@[match_pattern] abbrev openBracket : UInt8 := 0x5B
/-- The bracket that closes an array. -/
@[match_pattern] abbrev closeBracket : UInt8 := 0x5D
/-- The comma between the parts of an object or array. -/
@[match_pattern] abbrev comma : UInt8 := 0x2C
/-- The colon after a name. -/
@[match_pattern] abbrev colon : UInt8 := 0x3A
/-- The minus sign. -/
@[match_pattern] abbrev minus : UInt8 := 0x2D

/-- Space, tab, line feed and carriage return may stand between the parts of a text. -/
def isBlank (octet : UInt8) : Bool :=
  octet == 0x20 || octet == 0x09 || octet == 0x0A || octet == 0x0D

/-- Drops the blanks at the front. -/
def skipBlanks (input : Octets) : Octets :=
  input.dropWhile isBlank

/-- An ASCII digit. -/
def isDigit (octet : UInt8) : Bool :=
  0x30 ≤ octet && octet ≤ 0x39

/-- Reads exactly the octets of `word`. -/
def readWord : (word : Octets) → Octets → Except Flaw Octets
  | [], input => .ok input
  | _ :: _, [] => .error .truncated
  | expected :: word, octet :: input =>
    if octet = expected then readWord word input else .error .malformed

/-- What follows the `n` of `null`. -/
def ull : Octets := [0x75, 0x6C, 0x6C]

/-- What follows the `t` of `true`. -/
def rue : Octets := [0x72, 0x75, 0x65]

/-- What follows the `f` of `false`. -/
def alse : Octets := [0x61, 0x6C, 0x73, 0x65]

/-- Reads the colon between a member's name and its value. -/
def readColon (input : Octets) : Except Flaw Octets :=
  match skipBlanks input with
  | [] => .error .truncated
  | octet :: rest => if octet = colon then .ok rest else .error .malformed

/-- Reads the brace that ends an object whose members have all been read. -/
def readObjectEnd (input : Octets) : Except Flaw Octets :=
  match skipBlanks input with
  | [] => .error .truncated
  | octet :: rest => if octet = closeBrace then .ok rest else .error .malformed

/-- Reads the bracket that ends an array whose elements have all been read. -/
def readArrayEnd (input : Octets) : Except Flaw Octets :=
  match skipBlanks input with
  | [] => .error .truncated
  | octet :: rest => if octet = closeBracket then .ok rest else .error .malformed

/-- Reads a whole text with `reader`: nothing but blanks may follow the value. -/
def readAll {α : Type} (reader : Reader α) (input : Octets) : Except Flaw α := do
  let (value, rest) ← reader input
  if skipBlanks rest = [] then return value else throw .malformed

/-- A text that does not start with a blank keeps its front. -/
theorem skipBlanks_cons {octet : UInt8} (rest : Octets) (solid : isBlank octet = false) :
    skipBlanks (octet :: rest) = octet :: rest := by
  simp [skipBlanks, List.dropWhile, solid]

/-- A word reads itself back, whatever follows. -/
theorem readWord_append (word rest : Octets) : readWord word (word ++ rest) = .ok rest := by
  induction word with
  | nil => rfl
  | cons octet word ih => simp [readWord, ih]

end Json
end PlugAndCharge
