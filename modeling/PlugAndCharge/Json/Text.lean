import PlugAndCharge.Json.Reader

/-!
# JSON strings

Writing escapes the quote, the backslash and the control characters and leaves every other octet as
it is; reading undoes every escape.  `readQuoted_writeText` says that a text always reads back.
-/

namespace PlugAndCharge
namespace Json

/-! ## Writing -/

/-- A lower-case hexadecimal digit. -/
def hexOctet (value : UInt8) : UInt8 :=
  if value < 10 then 0x30 + value else 0x57 + value

/-- The octets that stand for one octet of a text.  Control characters with a letter of their own
use it; the others are written by number. -/
def escapeOctet (octet : UInt8) : Octets :=
  if octet = quote then [backslash, quote]
  else if octet = backslash then [backslash, backslash]
  else if octet = 0x08 then [backslash, 0x62]
  else if octet = 0x09 then [backslash, 0x74]
  else if octet = 0x0A then [backslash, 0x6E]
  else if octet = 0x0C then [backslash, 0x66]
  else if octet = 0x0D then [backslash, 0x72]
  else if octet < 0x20 then
    [backslash, 0x75, 0x30, 0x30, hexOctet (octet / 16), hexOctet (octet % 16)]
  else [octet]

/-- The quoted form of a text. -/
def writeText (text : String) : Octets :=
  quote :: ((Octets.ofText text).flatMap escapeOctet ++ [quote])

/-! ## Reading -/

/-- The octet that a one-letter escape stands for. -/
def escapedOctet? (letter : UInt8) : Option UInt8 :=
  if letter = quote then some quote
  else if letter = backslash then some backslash
  else if letter = 0x2F then some 0x2F
  else if letter = 0x62 then some 0x08
  else if letter = 0x66 then some 0x0C
  else if letter = 0x6E then some 0x0A
  else if letter = 0x72 then some 0x0D
  else if letter = 0x74 then some 0x09
  else none

/-- The value of a hexadecimal digit of either case. -/
def hexDigitValue? (octet : UInt8) : Option Nat :=
  if isDigit octet then some (octet.toNat - 0x30)
  else if 0x61 ≤ octet ∧ octet ≤ 0x66 then some (octet.toNat - 0x57)
  else if 0x41 ≤ octet ∧ octet ≤ 0x46 then some (octet.toNat - 0x37)
  else none

/-- The UTF-16 unit that four hexadecimal digits name. -/
def hexUnit? (a b c d : UInt8) : Option Nat := do
  let a ← hexDigitValue? a
  let b ← hexDigitValue? b
  let c ← hexDigitValue? c
  let d ← hexDigitValue? d
  return ((a * 16 + b) * 16 + c) * 16 + d

/-- The first half of a surrogate pair. -/
def isHighSurrogate (unit : Nat) : Bool := 0xD800 ≤ unit && unit ≤ 0xDBFF

/-- The second half of a surrogate pair. -/
def isLowSurrogate (unit : Nat) : Bool := 0xDC00 ≤ unit && unit ≤ 0xDFFF

/-- The UTF-8 form of a code point. -/
def codePoint (value : Nat) : Octets :=
  String.utf8EncodeChar (Char.ofNat value)

/-- Puts octets in front of what a reader of octets returned. -/
def prepend (front : Octets) : Except Flaw (Octets × Octets) → Except Flaw (Octets × Octets)
  | .ok (octets, rest) => .ok (front ++ octets, rest)
  | .error flaw => .error flaw

/-- Reads from behind the opening quote to the closing one and undoes the escapes.  A surrogate
that is not one half of a pair in the right order is refused. -/
def unescape : Octets → Except Flaw (Octets × Octets)
  | [] => .error .truncated
  | octet :: input =>
    if octet = quote then .ok ([], input)
    else if octet = backslash then
      match input with
      | [] => .error .truncated
      | letter :: input =>
        if letter = 0x75 then
          match input with
          | a :: b :: c :: d :: input =>
            match hexUnit? a b c d with
            | none => .error .malformed
            | some unit =>
              if isLowSurrogate unit then .error .malformed
              else if isHighSurrogate unit then
                match input with
                | [] => .error .truncated
                | slash :: input =>
                  if slash ≠ backslash then .error .malformed
                  else
                    match input with
                    | [] => .error .truncated
                    | letter :: input =>
                      if letter ≠ 0x75 then .error .malformed
                      else
                        match input with
                        | a :: b :: c :: d :: input =>
                          match hexUnit? a b c d with
                          | none => .error .malformed
                          | some low =>
                            if isLowSurrogate low then
                              prepend
                                (codePoint (0x10000 + (unit - 0xD800) * 0x400 + (low - 0xDC00)))
                                (unescape input)
                            else .error .malformed
                        | _ => .error .truncated
              else prepend (codePoint unit) (unescape input)
          | _ => .error .truncated
        else
          match escapedOctet? letter with
          | none => .error .malformed
          | some octet => prepend [octet] (unescape input)
    else if octet < 0x20 then .error .malformed
    else prepend [octet] (unescape input)
termination_by structural input => input

/-- Reads a text from behind its opening quote.  Octets that are not UTF-8 are refused once the
closing quote is reached. -/
def readQuoted (input : Octets) : Except Flaw (String × Octets) :=
  match unescape input with
  | .error flaw => .error flaw
  | .ok (octets, rest) =>
    match Octets.toText? octets with
    | some text => .ok (text, rest)
    | none => .error .malformed

/-- Passes over a string from behind its opening quote.  Only its form matters: surrogates may stand
alone and octets need not be UTF-8. -/
def skipQuoted : Octets → Except Flaw Octets
  | [] => .error .truncated
  | octet :: input =>
    if octet = quote then .ok input
    else if octet = backslash then
      match input with
      | [] => .error .truncated
      | letter :: input =>
        if letter = 0x75 then
          match input with
          | a :: b :: c :: d :: input =>
            if (hexUnit? a b c d).isSome then skipQuoted input else .error .malformed
          | _ => .error .truncated
        else if (escapedOctet? letter).isSome then skipQuoted input
        else .error .malformed
    else if octet < 0x20 then .error .malformed
    else skipQuoted input

/-! ## Reading back -/

/-- The closing quote ends the text. -/
theorem unescape_quote (rest : Octets) : unescape (quote :: rest) = .ok ([], rest) := by
  rw [unescape.eq_def]
  simp

/-- An octet that needs no escape is read as it stands. -/
theorem unescape_plain {octet : UInt8} (rest : Octets) (notQuote : octet ≠ quote)
    (notBackslash : octet ≠ backslash) (printable : ¬ octet < 0x20) :
    unescape (octet :: rest) = prepend [octet] (unescape rest) := by
  rw [unescape.eq_def]
  simp [notQuote, notBackslash, printable]

/-- A one-letter escape is read as the octet it stands for. -/
theorem unescape_letter {letter octet : UInt8} (rest : Octets) (notUnit : letter ≠ 0x75)
    (named : escapedOctet? letter = some octet) :
    unescape (backslash :: letter :: rest) = prepend [octet] (unescape rest) := by
  rw [unescape.eq_def]
  simp [notUnit, named, show backslash ≠ quote by decide]

/-- An escape by number outside the surrogates is read as the code point it names. -/
theorem unescape_unit {a b c d : UInt8} {unit : Nat} (rest : Octets)
    (named : hexUnit? a b c d = some unit) (notLow : isLowSurrogate unit = false)
    (notHigh : isHighSurrogate unit = false) :
    unescape (backslash :: 0x75 :: a :: b :: c :: d :: rest) =
      prepend (codePoint unit) (unescape rest) := by
  rw [unescape.eq_def]
  simp [named, notLow, notHigh, show backslash ≠ quote by decide]

/-- The escape by number of a control character names that character. -/
theorem hexUnit?_control : ∀ value < 32,
    hexUnit? 0x30 0x30 (hexOctet (UInt8.ofNat value / 16)) (hexOctet (UInt8.ofNat value % 16)) =
        some value ∧
      isLowSurrogate value = false ∧ isHighSurrogate value = false ∧
      codePoint value = [UInt8.ofNat value] := by
  decide

/-- One written octet reads back as itself, in front of whatever follows. -/
theorem unescape_escapeOctet (octet : UInt8) (rest : Octets) :
    unescape (escapeOctet octet ++ rest) = prepend [octet] (unescape rest) := by
  unfold escapeOctet
  split
  · next same => subst same; exact unescape_letter rest (by decide) (by decide)
  split
  · next same => subst same; exact unescape_letter rest (by decide) (by decide)
  split
  · next same => subst same; exact unescape_letter rest (by decide) (by decide)
  split
  · next same => subst same; exact unescape_letter rest (by decide) (by decide)
  split
  · next same => subst same; exact unescape_letter rest (by decide) (by decide)
  split
  · next same => subst same; exact unescape_letter rest (by decide) (by decide)
  split
  · next same => subst same; exact unescape_letter rest (by decide) (by decide)
  split
  · next control =>
    have named := hexUnit?_control octet.toNat (UInt8.lt_iff_toNat_lt.mp control)
    rw [UInt8.ofNat_toNat] at named
    obtain ⟨unit, notLow, notHigh, point⟩ := named
    rw [← point]
    exact unescape_unit rest unit notLow notHigh
  · next notQuote notBackslash _ _ _ _ _ printable =>
    exact unescape_plain rest notQuote notBackslash printable

/-- A run of written octets reads back as itself, up to the closing quote. -/
theorem unescape_flatMap_escapeOctet (octets rest : Octets) :
    unescape (octets.flatMap escapeOctet ++ quote :: rest) = .ok (octets, rest) := by
  induction octets with
  | nil => exact unescape_quote rest
  | cons octet octets ih =>
    rw [List.flatMap_cons, List.append_assoc, unescape_escapeOctet, ih]
    rfl

/-- Every text reads back from its quoted form. -/
theorem readQuoted_writeText (text : String) (rest : Octets) :
    readQuoted ((Octets.ofText text).flatMap escapeOctet ++ quote :: rest) = .ok (text, rest) := by
  simp [readQuoted, unescape_flatMap_escapeOctet, Octets.toText?_ofText]

end Json
end PlugAndCharge
