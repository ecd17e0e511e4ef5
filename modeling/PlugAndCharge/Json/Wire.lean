import PlugAndCharge.Json.Skip

/-!
# Wire forms

`Wire α` says how values of `α` are written as JSON and read back.  This module gives the wire forms
of truth values, fixed-width integers, texts, lists, optional values and enumerations; records and
unions are built from these in their own modules.
-/

namespace PlugAndCharge
namespace Json

/-- How values of a type are written as JSON and read back. -/
class Wire (α : Type) where
  /-- The one form in which a value is written. -/
  write : α → Octets
  /-- Reads a value in any of its forms, after blanks. -/
  read : Reader α

/-- The value that a whole text holds. -/
def decode {α : Type} [Wire α] (text : Octets) : Except Flaw α :=
  readAll Wire.read text

/-! ## Truth values and texts -/

/-- Reads `true` or `false`. -/
def readBool (input : Octets) : Except Flaw (Bool × Octets) :=
  match skipBlanks input with
  | [] => .error .truncated
  | octet :: rest =>
    if octet = 0x74 then (readWord rue rest).map (true, ·)
    else if octet = 0x66 then (readWord alse rest).map (false, ·)
    else .error (wrongType (octet :: rest))

/-- The word for a truth value. -/
def writeBool : Bool → Octets
  | true => 0x74 :: rue
  | false => 0x66 :: alse

instance : Wire Bool where
  write := writeBool
  read := readBool

/-- Reads a string. -/
def readText (input : Octets) : Except Flaw (String × Octets) :=
  match skipBlanks input with
  | [] => .error .truncated
  | octet :: rest => if octet = quote then readQuoted rest else .error (wrongType (octet :: rest))

instance : Wire String where
  write := writeText
  read := readText

/-! ## Integers -/

/-- Reads an integer between `low` and `high`. -/
def readIntegerWithin (low high : Int) (input : Octets) : Except Flaw (Int × Octets) :=
  match skipBlanks input with
  | [] => .error .truncated
  | octet :: rest =>
    if octet = minus ∨ isDigit octet then
      match readNumber (octet :: rest) with
      | .ok (.integer value, rest) =>
        if low ≤ value ∧ value ≤ high then .ok (value, rest) else .error .mistyped
      | .ok (.binary64, _) => .error .mistyped
      | .error flaw => .error flaw
    else .error (wrongType (octet :: rest))

/-- An unsigned integer of `width` bits. -/
def readUnsigned (width : Nat) (input : Octets) : Except Flaw (Nat × Octets) :=
  (readIntegerWithin 0 (wordCount width - 1) input).map fun (value, rest) => (value.toNat, rest)

/-- A signed integer of `width` bits. -/
def readSigned (width : Nat) (input : Octets) : Except Flaw (Int × Octets) :=
  readIntegerWithin (-wordCount (width - 1)) (wordCount (width - 1) - 1) input

instance : Wire UInt8 where
  write value := writeNat value.toNat
  read input := (readUnsigned 8 input).map fun (value, rest) => (UInt8.ofNat value, rest)

instance : Wire UInt16 where
  write value := writeNat value.toNat
  read input := (readUnsigned 16 input).map fun (value, rest) => (UInt16.ofNat value, rest)

instance : Wire UInt32 where
  write value := writeNat value.toNat
  read input := (readUnsigned 32 input).map fun (value, rest) => (UInt32.ofNat value, rest)

instance : Wire UInt64 where
  write value := writeNat value.toNat
  read input := (readUnsigned 64 input).map fun (value, rest) => (UInt64.ofNat value, rest)

instance : Wire Int8 where
  write value := writeInt value.toInt
  read input := (readSigned 8 input).map fun (value, rest) => (Int8.ofInt value, rest)

instance : Wire Int16 where
  write value := writeInt value.toInt
  read input := (readSigned 16 input).map fun (value, rest) => (Int16.ofInt value, rest)

instance : Wire Int64 where
  write value := writeInt value.toInt
  read input := (readSigned 64 input).map fun (value, rest) => (Int64.ofInt value, rest)

/-! ## Lists -/

/-- Writes parts with commas between them. -/
def commaSeparated : List Octets → Octets
  | [] => []
  | [part] => part
  | part :: parts => part ++ comma :: commaSeparated parts

/-- Moves to the next element of an array.  `none` says that the closing bracket comes next; it is
left to be read. -/
def nextElement (first : Bool) (input : Octets) : Except Flaw (Option Octets) :=
  match skipBlanks input with
  | [] => .error .truncated
  | octet :: rest =>
    if octet = closeBracket then .ok none
    else if first then .ok (some (octet :: rest))
    else if octet = comma then
      match skipBlanks rest with
      | [] => .error .truncated
      | octet :: rest =>
        if octet = closeBracket then .error .malformed else .ok (some (octet :: rest))
    else .error .malformed

/-- Reads elements up to the closing bracket, at most `steps` of them. -/
def readElements {α : Type} (reader : Reader α) : (steps : Nat) → (first : Bool) →
    Octets → Except Flaw (List α × Octets)
  | 0, _, _ => .error .truncated
  | steps + 1, first, input =>
    match nextElement first input with
    | .error flaw => .error flaw
    | .ok none => .ok ([], input)
    | .ok (some input) =>
      match reader input with
      | .error flaw => .error flaw
      | .ok (value, rest) =>
        match readElements reader steps false rest with
        | .error flaw => .error flaw
        | .ok (values, rest) => .ok (value :: values, rest)

/-- Reads an array.  Each element takes at least one octet, so the length of the text bounds their
number. -/
def readList {α : Type} (reader : Reader α) (input : Octets) :
    Except Flaw (List α × Octets) :=
  match skipBlanks input with
  | [] => .error .truncated
  | octet :: rest =>
    if octet = openBracket then
      match readElements reader (rest.length + 1) true rest with
      | .error flaw => .error flaw
      | .ok (values, rest) => (readArrayEnd rest).map (values, ·)
    else .error (wrongType (octet :: rest))

/-- Writes an array. -/
def writeList {α : Type} (write : α → Octets) (values : List α) : Octets :=
  openBracket :: (commaSeparated (values.map write) ++ [closeBracket])

instance {α : Type} [Wire α] : Wire (List α) where
  write := writeList Wire.write
  read := readList Wire.read

/-! ## Optional values -/

/-- Reads `null` as no value. -/
def readOptional {α : Type} (reader : Reader α) (input : Octets) :
    Except Flaw (Option α × Octets) :=
  match skipBlanks input with
  | octet :: rest =>
    if octet = 0x6E then (readWord ull rest).map (none, ·)
    else (reader (octet :: rest)).map fun (value, rest) => (some value, rest)
  | [] => .error .truncated

instance {α : Type} [Wire α] : Wire (Option α) where
  write value := value.elim (0x6E :: ull) Wire.write
  read := readOptional Wire.read

/-! ## Enumerations -/

/-- Reads the `null` that may stand for the content of a case without content. -/
def readNull (input : Octets) : Except Flaw Octets :=
  match skipBlanks input with
  | [] => .error .truncated
  | octet :: rest =>
    if octet = 0x6E then readWord ull rest else .error (wrongType (octet :: rest))

/-- Reads one of several names: as a string, or as an object whose only member has that name and
the value `null`.  A value of any other type is malformed. -/
def readName {α : Type} (named? : String → Option α) (input : Octets) :
    Except Flaw (α × Octets) :=
  match skipBlanks input with
  | [] => .error .truncated
  | octet :: rest =>
    if octet = quote then
      match readQuoted rest with
      | .error flaw => .error flaw
      | .ok (name, rest) =>
        match named? name with
        | some value => .ok (value, rest)
        | none => .error .mistyped
    else if octet = openBrace then
      match readText rest with
      | .error flaw => .error flaw
      | .ok (name, rest) =>
        match named? name with
        | none => .error .mistyped
        | some value => do
          let rest ← readColon rest
          let rest ← readNull rest
          let rest ← readObjectEnd rest
          return (value, rest)
    else .error .malformed

/-- A type of finitely many named values. -/
class Enumeration (α : Type) where
  /-- Every value once. -/
  all : List α
  /-- The name of a value on the wire. -/
  name : α → String

/-- The value that a name belongs to. -/
def named? {α : Type} [Enumeration α] (name : String) : Option α :=
  (Enumeration.all (α := α)).find? fun value => Enumeration.name value == name

instance {α : Type} [Enumeration α] : Wire α where
  write value := writeText (Enumeration.name value)
  read := readName named?

end Json
end PlugAndCharge
