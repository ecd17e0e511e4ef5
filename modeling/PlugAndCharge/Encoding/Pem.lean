import PlugAndCharge.Encoding.Base64

/-!
# PEM

The textual encoding of RFC 7468: base64 in lines of sixty-four characters between two boundaries
that carry a label.  Lines may end in LF, CR or both; text before the opening boundary is passed
over, and nothing but one line end may follow the closing one.
-/

namespace PlugAndCharge
namespace Pem

/-- The length of a full line. -/
def lineLength : Nat := 64

/-- The line before a document begins with this. -/
def beginning : Octets := Octets.ofText "-----BEGIN "

/-- The line after a document begins with this. -/
def ending : Octets := Octets.ofText "-----END "

/-- Both lines end with this. -/
def dashes : Octets := Octets.ofText "-----"

/-! ## Writing -/

/-- Cuts a text into lines of full length, the last of which may be shorter. -/
def wrap : (lines : Nat) → Octets → Octets
  | 0, _ => []
  | lines + 1, text =>
    if text = [] then []
    else text.take lineLength ++ 0x0A :: wrap lines (text.drop lineLength)

/-- Writes octets under a label. -/
def encode (label : String) (octets : Octets) : Octets :=
  let label := Octets.ofText label
  let text := Base64.encode octets
  beginning ++ label ++ dashes ++ 0x0A ::
    (wrap (text.length / lineLength + 1) text ++ ending ++ label ++ dashes ++ [0x0A])

/-! ## Reading -/

/-- What follows a front that must be there. -/
def afterFront? (front text : Octets) : Option Octets :=
  if front.isPrefixOf text then some (text.drop front.length) else none

/-- What precedes an end that must be there. -/
def beforeEnd? (tail text : Octets) : Option Octets :=
  if tail.isSuffixOf text then some (text.take (text.length - tail.length)) else none

/-- What follows the end of a line. -/
def afterLineEnd? : Octets → Option Octets
  | 0x0D :: 0x0A :: rest => some rest
  | 0x0D :: rest => some rest
  | 0x0A :: rest => some rest
  | _ => none

/-- What precedes the end of the last line. -/
def beforeLineEnd? (text : Octets) : Option Octets :=
  match text.reverse with
  | 0x0A :: 0x0D :: front => some front.reverse
  | 0x0A :: front => some front.reverse
  | 0x0D :: front => some front.reverse
  | _ => none

/-- Passes over text before the opening boundary, which must start a line.  A NUL there is
refused. -/
def skipPreamble? : Octets → Option Octets
  | [] => none
  | octet :: rest =>
    if octet = 0x00 then none
    else if octet = 0x0A ∧ beginning.isPrefixOf rest then some rest
    else skipPreamble? rest

/-- Joins lines of full length; the last may be shorter. -/
def unwrap? : (lines : Nat) → Octets → Option Octets
  | 0, _ => none
  | lines + 1, text =>
    if text.length ≤ lineLength then some text
    else do
      let rest ← afterLineEnd? (text.drop lineLength)
      let rest ← unwrap? lines rest
      return text.take lineLength ++ rest

/-- Reads the octets under a label. -/
def decode? (label : String) (text : Octets) : Option Octets := do
  let label := Octets.ofText label
  let text ← if beginning.isPrefixOf text then some text else skipPreamble? text
  let text ← afterFront? (beginning ++ label ++ dashes) text
  let text ← afterLineEnd? text
  let text := (beforeLineEnd? text).getD text
  let text ← beforeEnd? (ending ++ label ++ dashes) text
  let text ← beforeLineEnd? text
  let text ← unwrap? (text.length + 1) text
  Base64.decode? text

end Pem
end PlugAndCharge
