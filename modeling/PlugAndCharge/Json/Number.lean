import PlugAndCharge.Json.Reader

/-!
# JSON numbers

Only integers occur in the messages.  A number with a fraction or an exponent, minus zero, and an
integer that does not fit in 64 bits are read as binary64 values, which no field accepts; such a
number is still refused as malformed when its value is beyond the largest binary64 value, so the
reader keeps its leading digits and its scale exactly.
-/

namespace PlugAndCharge
namespace Json

/-! ## Writing -/

/-- The decimal digits of a natural number. -/
def writeNat (number : Nat) : Octets :=
  (Nat.toDigits 10 number).map fun digit => UInt8.ofNat digit.toNat

/-- An integer in decimal notation. -/
def writeInt : Int → Octets
  | .ofNat number => writeNat number
  | .negSucc number => minus :: writeNat (number + 1)

/-! ## The range of binary64 -/

/-- The number of values of a word of `width` bits. -/
def wordCount (width : Nat) : Nat := Nat.pow 2 width

/-- The largest 64-bit number. -/
def maxWord : Nat := wordCount 64 - 1

/-- Rounds a natural number to 53 significant bits, a tie to the even neighbour. -/
def roundToBinary64 (number : Nat) : Nat :=
  let excess := number.log2 + 1 - 53
  let kept := number >>> excess
  let dropped := number % wordCount excess
  let half := wordCount (excess - 1)
  if excess = 0 then number
  else if half < dropped ∨ (dropped = half ∧ kept % 2 = 1) then (kept + 1) <<< excess
  else kept <<< excess

/-- Whether `significand · 10 ^ scale`, with both factors rounded to binary64, is too large for
binary64.  A negative scale makes the value smaller and never too large. -/
def exceedsBinary64 (significand : Nat) (scale : Int) : Bool :=
  if significand = 0 ∨ scale < 0 then false
  else if 308 < scale then true
  else
    Nat.pow 2 1024 - Nat.pow 2 970 ≤
      roundToBinary64 significand * roundToBinary64 (Nat.pow 10 scale.toNat)

/-! ## Reading -/

/-- The value of a digit. -/
def digitValue (octet : UInt8) : Nat := octet.toNat - 0x30

/-- Takes digits into `number` while it stays within `limit`.  Returns the number and the digits
that were left over. -/
def absorb (limit : Nat) : (number : Nat) → (digits : Octets) → Nat × Octets
  | number, [] => (number, [])
  | number, digit :: digits =>
    if number * 10 + digitValue digit ≤ limit then
      absorb limit (number * 10 + digitValue digit) digits
    else (number, digit :: digits)

/-- What a number turned out to be: an integer of at most 64 bits, or a binary64 value. -/
inductive Number where
  | integer (value : Int)
  | binary64
  deriving DecidableEq, Repr

/-- Ends a binary64 number. -/
def finishBinary64 (significand : Nat) (scale : Int) (rest : Octets) :
    Except Flaw (Number × Octets) :=
  if exceedsBinary64 significand scale then .error .malformed else .ok (.binary64, rest)

/-- Reads from behind the letter of the exponent.  An exponent beyond 31 bits is not computed: it
makes the value zero or too large. -/
def readExponent (significand : Nat) (scale : Int) (input : Octets) :
    Except Flaw (Number × Octets) :=
  let (negative, unsigned) :=
    match input with
    | octet :: rest =>
      if octet = 0x2B then (false, rest)
      else if octet = minus then (true, rest)
      else (false, input)
    | [] => (false, [])
  match unsigned with
  | [] => .error .truncated
  | first :: _ =>
    if isDigit first then
      let digits := unsigned.takeWhile isDigit
      let rest := unsigned.dropWhile isDigit
      match absorb (wordCount 31 - 1) 0 digits with
      | (exponent, []) =>
        finishBinary64 significand (if negative then scale - exponent else scale + exponent) rest
      | (_, _ :: _) =>
        if significand ≠ 0 ∧ ¬ negative then .error .malformed else .ok (.binary64, rest)
    else .error .malformed

/-- Reads from behind the decimal point. -/
def readFraction (significand : Nat) (scale : Int) (input : Octets) :
    Except Flaw (Number × Octets) :=
  let digits := input.takeWhile isDigit
  match digits, input with
  | [], [] => .error .truncated
  | [], _ :: _ => .error .malformed
  | _ :: _, _ =>
    let (significand, left) := absorb maxWord significand digits
    let scale := scale - (digits.length - left.length : Nat)
    match input.dropWhile isDigit with
    | octet :: rest =>
      if octet = 0x65 ∨ octet = 0x45 then readExponent significand scale rest
      else finishBinary64 significand scale (octet :: rest)
    | [] => finishBinary64 significand scale []

/-- A magnitude of at most 64 bits with its sign.  Minus zero and magnitudes that no signed 64-bit
integer has are binary64 values. -/
def signed (negative : Bool) (magnitude : Nat) : Number :=
  if negative then
    if 0 < magnitude ∧ magnitude ≤ wordCount 63 then .integer (-magnitude) else .binary64
  else .integer magnitude

/-- Reads the digits of a number and what belongs to it after them. -/
def readMagnitude (negative : Bool) (input : Octets) : Except Flaw (Number × Octets) :=
  match input with
  | [] => .error .truncated
  | first :: afterFirst =>
    if ¬ isDigit first then .error .malformed
    else if first = 0x30 ∧ (afterFirst.head?.any isDigit) then .error .malformed
    else
      let (significand, left) := absorb maxWord 0 (input.takeWhile isDigit)
      let scale : Int := left.length
      let rest := input.dropWhile isDigit
      let whole : Except Flaw (Number × Octets) :=
        if left = [] then .ok (signed negative significand, rest)
        else finishBinary64 significand scale rest
      match rest with
      | octet :: after =>
        if octet = 0x2E then readFraction significand scale after
        else if octet = 0x65 ∨ octet = 0x45 then readExponent significand scale after
        else whole
      | [] => whole

/-- Reads a number; the text starts with a digit or a minus sign. -/
def readNumber (input : Octets) : Except Flaw (Number × Octets) :=
  match input with
  | octet :: rest => if octet = minus then readMagnitude true rest else readMagnitude false input
  | [] => .error .truncated

/-! ## Passing over a number -/

/-- Passes over the exponent of a number from behind its letter. -/
def skipExponent (input : Octets) : Except Flaw Octets :=
  let unsigned :=
    match input with
    | octet :: rest => if octet = 0x2B ∨ octet = minus then rest else input
    | [] => []
  if unsigned.head?.any isDigit then .ok (unsigned.dropWhile isDigit) else .error .malformed

/-- Passes over the fraction of a number from behind its point. -/
def skipFraction (input : Octets) : Except Flaw Octets :=
  if input.head?.any isDigit then
    match input.dropWhile isDigit with
    | octet :: rest =>
      if octet = 0x65 ∨ octet = 0x45 then skipExponent rest else .ok (octet :: rest)
    | [] => .ok []
  else .error .malformed

/-- Passes over a number of any size.  A number that breaks off is malformed here. -/
def skipNumber (input : Octets) : Except Flaw Octets :=
  let unsigned :=
    match input with
    | octet :: rest => if octet = minus then rest else input
    | [] => []
  match unsigned with
  | [] => .error .malformed
  | first :: afterFirst =>
    if ¬ isDigit first then .error .malformed
    else if first = 0x30 ∧ (afterFirst.head?.any isDigit) then .error .malformed
    else
      match unsigned.dropWhile isDigit with
      | octet :: rest =>
        if octet = 0x2E then skipFraction rest
        else if octet = 0x65 ∨ octet = 0x45 then skipExponent rest
        else .ok (octet :: rest)
      | [] => .ok []

end Json
end PlugAndCharge
