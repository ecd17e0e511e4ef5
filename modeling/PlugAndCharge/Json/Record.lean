import PlugAndCharge.Json.Wire

/-!
# Records

A record is an object with named members, or an array of the members' values in their order.
Reading an object accepts members in any order, passes over unknown ones and refuses a repeated one;
writing follows the order of declaration and leaves out what is absent.
-/

namespace PlugAndCharge
namespace Json

/-- One member of a record. -/
structure Member (α : Type) where
  name : String
  /-- The written value; `none` leaves the member out. -/
  write? : α → Option Octets
  read : Reader α
  /-- The value when an object lacks the member, if it may. -/
  absent : Option α
  /-- The value when an array ends before the member, if it may. -/
  short : Option α

namespace Member

/-- A member that must be present. -/
def required {α : Type} [Wire α] (name : String) : Member α where
  name := name
  write? value := some (Wire.write value)
  read := Wire.read
  absent := none
  short := none

/-- A member that is left out when it has no value, and that an array must still hold. -/
def optional {α : Type} [Wire α] (name : String) : Member (Option α) where
  name := name
  write? value := value.map Wire.write
  read := Wire.read
  absent := some none
  short := none

/-- A member that is left out when it has no value, in an array as well. -/
def omissible {α : Type} [Wire α] (name : String) : Member (Option α) where
  name := name
  write? value := value.map Wire.write
  read := Wire.read
  absent := some none
  short := some none

/-- A member that is always written and takes a default when it is missing. -/
def withDefault {α : Type} [Wire α] (name : String) (default : α) : Member α where
  name := name
  write? value := some (Wire.write value)
  read := Wire.read
  absent := some default
  short := some default

end Member

/-- The members of a record in their order.  The first index is the product of their types, the
second the product of the slots that hold what has been read of them so far. -/
inductive Members : (γ σ : Type) → Type 1 where
  | nil : Members Unit Unit
  | cons {α γ σ : Type} (member : Member α) (members : Members γ σ) :
      Members (α × γ) (Option α × σ)

namespace Members

/-- Nothing has been read. -/
def empty {γ σ : Type} : Members γ σ → σ
  | .nil => ()
  | .cons _ members => (none, members.empty)

/-- Reads the colon and the value of the member called `name` into its slot.  A second value is
refused as soon as its name is known; an unknown member is passed over. -/
def fill (name : String) {γ σ : Type} : Members γ σ → σ → Octets → Except Flaw (σ × Octets)
  | .nil, slots, input => do
    let input ← readColon input
    let input ← skipValue input
    return (slots, input)
  | .cons member members, (slot, slots), input =>
    if name = member.name then
      match slot with
      | some _ => .error .mistyped
      | none => do
        let input ← readColon input
        let (value, input) ← member.read input
        return ((some value, slots), input)
    else do
      let (slots, input) ← members.fill name slots input
      return ((slot, slots), input)

/-- The record that the slots hold, once the object has ended. -/
def complete {γ σ : Type} : Members γ σ → σ → Except Flaw γ
  | .nil, _ => .ok ()
  | .cons member members, (slot, slots) =>
    match slot.or member.absent with
    | none => .error .mistyped
    | some value => (members.complete slots).map (value, ·)

/-- Moves to the next member of an object and behind the quote that opens its name.  `none` says
that the closing brace comes next; it is left to be read. -/
def nextName (first : Bool) (input : Octets) : Except Flaw (Option Octets) :=
  match skipBlanks input with
  | [] => .error .truncated
  | octet :: rest =>
    if octet = closeBrace then .ok none
    else if first then
      if octet = quote then .ok (some rest) else .error .malformed
    else if octet = comma then
      match skipBlanks rest with
      | [] => .error .truncated
      | octet :: rest => if octet = quote then .ok (some rest) else .error .malformed
    else .error .malformed

/-- Reads members up to the closing brace, at most `steps` of them. -/
def readNamed {γ σ : Type} (members : Members γ σ) : (steps : Nat) → (first : Bool) → σ →
    Octets → Except Flaw (σ × Octets)
  | 0, _, _, _ => .error .truncated
  | steps + 1, first, slots, input =>
    match nextName first input with
    | .error flaw => .error flaw
    | .ok none => .ok (slots, input)
    | .ok (some input) => do
      let (name, input) ← readQuoted input
      let (slots, input) ← members.fill name slots input
      members.readNamed steps false slots input

/-- Reads the members' values in their order up to the closing bracket. -/
def readOrdered {γ σ : Type} : Members γ σ → (first : Bool) → Octets →
    Except Flaw (γ × Octets)
  | .nil, _, input => .ok ((), input)
  | .cons member members, first, input =>
    match nextElement first input with
    | .error flaw => .error flaw
    | .ok none =>
      match member.short with
      | none => .error .mistyped
      | some value => do
        let (values, input) ← members.readOrdered first input
        return ((value, values), input)
    | .ok (some input) => do
      let (value, input) ← member.read input
      let (values, input) ← members.readOrdered false input
      return ((value, values), input)

/-- Reads a record in either form. -/
def read {γ σ : Type} (members : Members γ σ) (input : Octets) : Except Flaw (γ × Octets) :=
  match skipBlanks input with
  | [] => .error .truncated
  | octet :: rest =>
    if octet = openBracket then do
      let (values, rest) ← members.readOrdered true rest
      let rest ← readArrayEnd rest
      return (values, rest)
    else if octet = openBrace then do
      let (slots, rest) ← members.readNamed (rest.length + 1) true members.empty rest
      let values ← members.complete slots
      let rest ← readObjectEnd rest
      return (values, rest)
    else .error (wrongType (octet :: rest))

/-- The members that are written, each with its name. -/
def written {γ σ : Type} : Members γ σ → γ → List Octets
  | .nil, _ => []
  | .cons member members, (value, values) =>
    match member.write? value with
    | some octets => (writeText member.name ++ colon :: octets) :: members.written values
    | none => members.written values

/-- Writes a record as an object. -/
def write {γ σ : Type} (members : Members γ σ) (values : γ) : Octets :=
  openBrace :: (commaSeparated (members.written values) ++ [closeBrace])

end Members

/-- The wire form of a structure, given its members and the two directions between the structure
and the product of their values. -/
@[reducible] def recordWire {α γ σ : Type} (members : Members γ σ) (toValues : α → γ)
    (ofValues : γ → α) : Wire α where
  write value := members.write (toValues value)
  read input := (members.read input).map fun (values, rest) => (ofValues values, rest)

end Json
end PlugAndCharge
