import PlugAndCharge.Json.Number
import PlugAndCharge.Json.Text

/-!
# Passing over values

A member that a record does not know is passed over: only the form of its value matters, so it may
nest to any depth and hold numbers of any size.  The same forms decide what is wrong with a value
that is not of the wanted type.
-/

namespace PlugAndCharge
namespace Json

/-- The kind of bracket that encloses what is being passed over. -/
inductive Enclosure where
  | array
  | object
  deriving DecidableEq, Repr

/-- The octet that ends an enclosure. -/
def Enclosure.close : Enclosure → UInt8
  | .array => closeBracket
  | .object => closeBrace

/-- Where the scan stands: before a value, behind an opening bracket, or behind a value. -/
inductive Position where
  | beforeValue
  | afterOpening
  | afterValue
  deriving DecidableEq, Repr

/-- Reads the name of a member and its colon, for an object; an array element has neither. -/
def skipName (enclosure : Enclosure) (input : Octets) : Except Flaw Octets :=
  match enclosure with
  | .array => .ok input
  | .object =>
    match skipBlanks input with
    | [] => .error .truncated
    | octet :: rest =>
      if octet = quote then
        match skipQuoted rest with
        | .ok rest => readColon rest
        | .error flaw => .error flaw
      else .error .malformed

/-- Passes over a value that is not an array or object; the text starts with `first`. -/
def skipScalar (first : UInt8) (rest : Octets) : Except Flaw Octets :=
  if first = 0x6E then readWord ull rest
  else if first = 0x74 then readWord rue rest
  else if first = 0x66 then readWord alse rest
  else if first = quote then skipQuoted rest
  else if first = minus ∨ isDigit first then skipNumber (first :: rest)
  else .error .malformed

/-- Passes over the rest of a value.  `enclosures` are the open brackets, innermost first, and
`steps` bounds the number of parts still to be read. -/
def skipParts : (steps : Nat) → Position → (enclosures : List Enclosure) → Octets →
    Except Flaw Octets
  | 0, _, _, _ => .error .truncated
  | steps + 1, .beforeValue, enclosures, input =>
    match skipBlanks input with
    | [] => .error .truncated
    | octet :: rest =>
      if octet = openBracket then skipParts steps .afterOpening (.array :: enclosures) rest
      else if octet = openBrace then skipParts steps .afterOpening (.object :: enclosures) rest
      else
        match skipScalar octet rest with
        | .ok rest => skipParts steps .afterValue enclosures rest
        | .error flaw => .error flaw
  | _ + 1, .afterValue, [], input => .ok input
  | _ + 1, .afterOpening, [], input => .ok input
  | steps + 1, position, enclosure :: enclosures, input =>
    match skipBlanks input with
    | [] => .error .truncated
    | octet :: rest =>
      if octet = enclosure.close then skipParts steps .afterValue enclosures rest
      else if position = .afterOpening then
        match skipName enclosure (octet :: rest) with
        | .ok rest => skipParts steps .beforeValue (enclosure :: enclosures) rest
        | .error flaw => .error flaw
      else if octet = comma then
        match skipName enclosure rest with
        | .ok rest => skipParts steps .beforeValue (enclosure :: enclosures) rest
        | .error flaw => .error flaw
      else .error .malformed

/-- Passes over one value.  Each part takes at least one octet or ends a value, so twice the length
of the text bounds the number of parts. -/
def skipValue (input : Octets) : Except Flaw Octets :=
  skipParts (2 * input.length + 2) .beforeValue [] input

/-- The flaw of a text that should start with a value of another type.  A scalar is read to its end
first, so what is wrong with its form is what is reported. -/
def wrongType (input : Octets) : Flaw :=
  match input with
  | [] => .truncated
  | first :: rest =>
    if first = openBracket ∨ first = openBrace then .mistyped
    else if first = quote then
      match readQuoted rest with
      | .ok _ => .mistyped
      | .error flaw => flaw
    else if first = minus ∨ isDigit first then
      match readNumber input with
      | .ok _ => .mistyped
      | .error flaw => flaw
    else
      match skipScalar first rest with
      | .ok _ => .mistyped
      | .error flaw => flaw

end Json
end PlugAndCharge
