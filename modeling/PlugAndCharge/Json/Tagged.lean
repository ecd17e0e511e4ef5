import PlugAndCharge.Json.Record

/-!
# Unions

A value of a union is an object whose only member is named after the case and holds its content.
-/

namespace PlugAndCharge
namespace Json

/-- Writes the content of a case under its name. -/
def writeTagged (name : String) (content : Octets) : Octets :=
  openBrace :: (writeText name ++ colon :: (content ++ [closeBrace]))

/-- Reads the content that the name of the case calls for.  A bare name is of the wrong type, as
every case has content; anything but an object or a string is malformed. -/
def readTagged {α : Type} (case? : String → Option (Reader α)) (input : Octets) :
    Except Flaw (α × Octets) :=
  match skipBlanks input with
  | [] => .error .truncated
  | octet :: rest =>
    if octet = quote then
      match readQuoted rest with
      | .ok _ => .error .mistyped
      | .error flaw => .error flaw
    else if octet = openBrace then
      match readText rest with
      | .error flaw => .error flaw
      | .ok (name, rest) =>
        match case? name with
        | none => .error .mistyped
        | some reader => do
          let rest ← readColon rest
          let (value, rest) ← reader rest
          let rest ← readObjectEnd rest
          return (value, rest)
    else .error .malformed

end Json
end PlugAndCharge
