import PlugAndCharge.Octets

/-!
# DER

The distinguished encoding of ASN.1 values: a tag, a length in the fewest octets, and the content.
Reading is strict, so an element that has been read is written back octet for octet.
-/

namespace PlugAndCharge
namespace Der

/-! ## Tags -/

/-- The tags of the universal types that are used. -/
abbrev tagBoolean : UInt8 := 0x01
@[inherit_doc tagBoolean] abbrev tagInteger : UInt8 := 0x02
@[inherit_doc tagBoolean] abbrev tagBitString : UInt8 := 0x03
@[inherit_doc tagBoolean] abbrev tagOctetString : UInt8 := 0x04
@[inherit_doc tagBoolean] abbrev tagOid : UInt8 := 0x06
@[inherit_doc tagBoolean] abbrev tagUtf8String : UInt8 := 0x0C
@[inherit_doc tagBoolean] abbrev tagPrintableString : UInt8 := 0x13
@[inherit_doc tagBoolean] abbrev tagTeletexString : UInt8 := 0x14
@[inherit_doc tagBoolean] abbrev tagIa5String : UInt8 := 0x16
@[inherit_doc tagBoolean] abbrev tagUtcTime : UInt8 := 0x17
@[inherit_doc tagBoolean] abbrev tagGeneralizedTime : UInt8 := 0x18
@[inherit_doc tagBoolean] abbrev tagSequence : UInt8 := 0x30
@[inherit_doc tagBoolean] abbrev tagSet : UInt8 := 0x31

/-- The tags of universal types that may occur at all. -/
def universalTags : List UInt8 :=
  [0x01, 0x02, 0x03, 0x04, 0x05, 0x06, 0x09, 0x0A, 0x0C, 0x12, 0x13, 0x14, 0x15, 0x16, 0x17, 0x18,
   0x1A, 0x1E, 0x30, 0x31]

/-- Whether an octet is a tag: one of the universal types, or a number below 31 in another class. -/
def isTag (octet : UInt8) : Bool :=
  if octet < 0x40 then universalTags.contains octet else octet &&& 0x1F != 0x1F

/-- Whether a tag is of the context-specific class. -/
def isContextTag (tag : UInt8) : Bool := tag &&& 0xC0 == 0x80

/-- The tag of a context-specific field that holds another element. -/
def explicitTag (number : Nat) : UInt8 := 0xA0 + UInt8.ofNat number

/-- The tag of a context-specific field that takes the place of a primitive element. -/
def implicitTag (number : Nat) : UInt8 := 0x80 + UInt8.ofNat number

/-! ## Elements -/

/-- A tag with its content. -/
structure Element where
  tag : UInt8
  content : Octets
  deriving DecidableEq, Repr

/-- The largest length that is read. -/
def maxLength : Nat := 0x0fffffff

/-- A length in the fewest octets. -/
def encodeLength (length : Nat) : Octets :=
  if length < 0x80 then [UInt8.ofNat length]
  else
    let octets := Octets.ofNatMinimal length
    UInt8.ofNat (0x80 + octets.length) :: octets

/-- Writes an element. -/
def Element.encode (element : Element) : Octets :=
  element.tag :: (encodeLength element.content.length ++ element.content)

/-- Writes an element with the given tag and content. -/
def encode (tag : UInt8) (content : Octets) : Octets :=
  Element.encode ⟨tag, content⟩

/-- Reads a length, which must be in the fewest octets. -/
def readLength? : Octets → Option (Nat × Octets)
  | [] => none
  | first :: rest =>
    if first < 0x80 then some (first.toNat, rest)
    else
      let count := first.toNat - 0x80
      if 0 < count ∧ count ≤ 4 ∧ count ≤ rest.length then
        let length := Octets.toNat (rest.take count)
        if length ≤ maxLength ∧ encodeLength length = first :: rest.take count then
          some (length, rest.drop count)
        else none
      else none

/-- Reads an element. -/
def readElement? : Octets → Option (Element × Octets)
  | [] => none
  | tag :: rest =>
    if isTag tag then do
      let (length, rest) ← readLength? rest
      if length ≤ rest.length then some (⟨tag, rest.take length⟩, rest.drop length) else none
    else none

/-! ## Readers -/

/-- A computation that takes elements from the front of a content. -/
abbrev Reader (α : Type) := StateT Octets Option α

/-- Reads the next element, which must have the given tag. -/
def element (tag : UInt8) : Reader Octets := fun input => do
  let (element, rest) ← readElement? input
  if element.tag = tag then some (element.content, rest) else none

/-- Reads the next element of any tag. -/
def anyElement : Reader Element := readElement?

/-- Runs a reader on a content that it must take whole. -/
def whole? {α : Type} (reader : Reader α) (content : Octets) : Option α := do
  let (value, rest) ← reader content
  if rest = [] then some value else none

/-- Reads an element with the given tag, whose content `reader` takes whole. -/
def nested {α : Type} (tag : UInt8) (reader : Reader α) : Reader α := fun input => do
  let (content, rest) ← element tag input
  let value ← whole? reader content
  some (value, rest)

/-- Reads an element with the given tag if it comes next.  An octet that is no tag is refused. -/
def optional {α : Type} (tag : UInt8) (reader : Reader α) : Reader (Option α) := fun input =>
  match input with
  | [] => some (none, [])
  | octet :: _ =>
    if isTag octet then
      if octet = tag then (reader input).map fun (value, rest) => (some value, rest)
      else some (none, input)
    else none

/-- Reads elements up to the end of the content, at most `steps` of them. -/
def repeated {α : Type} (reader : Reader α) : (steps : Nat) → Reader (List α)
  | 0, input => if input = [] then some ([], []) else none
  | steps + 1, input =>
    if input = [] then some ([], [])
    else do
      let (value, rest) ← reader input
      let (values, rest) ← repeated reader steps rest
      some (value :: values, rest)

/-- Reads elements up to the end of the content. -/
def many {α : Type} (reader : Reader α) : Reader (List α) := fun input =>
  repeated reader input.length input

/-- Reads the context-specific field `number`.  Context-specific fields with a smaller number are
passed over; a greater number or another class means that the field is absent. -/
def contextFieldWithin {α : Type} (number : Nat) (read : Element → Option α) :
    (steps : Nat) → Reader (Option α)
  | 0, input => some (none, input)
  | steps + 1, input =>
    match input with
    | [] => some (none, [])
    | octet :: _ =>
      if ¬ isTag octet then none
      else if ¬ isContextTag octet ∨ number < (octet &&& 0x1F).toNat then some (none, input)
      else do
        let (element, rest) ← readElement? input
        if (octet &&& 0x1F).toNat = number then
          let value ← read element
          some (some value, rest)
        else contextFieldWithin number read steps rest

/-- Reads the context-specific field `number`, which holds another element. -/
def explicitField {α : Type} (number : Nat) (reader : Reader α) : Reader (Option α) := fun input =>
  contextFieldWithin number
    (fun element =>
      if element.tag = explicitTag number then whole? reader element.content else none)
    input.length input

/-- Reads the context-specific field `number`, which takes the place of a primitive element. -/
def implicitField {α : Type} (number : Nat) (ofContent? : Octets → Option α) :
    Reader (Option α) := fun input =>
  contextFieldWithin number
    (fun element =>
      if element.tag = implicitTag number then ofContent? element.content else none)
    input.length input

/-! ## Universal types -/

/-- Whether the content of an integer is in the fewest octets. -/
def isCanonicalInteger : Octets → Bool
  | [] => false
  | [_] => true
  | first :: second :: _ =>
    !(first == 0x00 && second < 0x80) && !(first == 0xFF && second ≥ 0x80)

/-- Reads the content of an integer, at most `limit` octets of it. -/
def integer (limit : Nat) : Reader Octets := do
  let content ← element tagInteger
  if isCanonicalInteger content ∧ content.length ≤ limit then return content else failure

/-- Reads an integer that is not negative. -/
def natural : Reader Nat := do
  let content ← integer maxLength
  if content.head?.any (· < 0x80) then return Octets.toNat content else failure

/-- The content of an integer that is not negative. -/
def naturalContent (number : Nat) : Octets :=
  let octets := Octets.ofNatMinimal number
  if octets.head?.all (· ≥ 0x80) then 0x00 :: octets else octets

/-- A string of bits; the last octet has some that are not used. -/
structure BitString where
  unusedBits : UInt8
  octets : Octets
  deriving DecidableEq, Repr

namespace BitString

/-- Reads the content of a bit string. -/
def ofContent? : Octets → Option BitString
  | [] => none
  | unusedBits :: octets =>
    if unusedBits ≤ 7 ∧ (unusedBits = 0 ∨ octets ≠ []) then some ⟨unusedBits, octets⟩ else none

/-- The content of a bit string. -/
def toContent (bits : BitString) : Octets := bits.unusedBits :: bits.octets

/-- Reads a bit string. -/
def reader : Reader BitString := do
  let content ← element tagBitString
  ofContent? content

/-- Writes a bit string. -/
def encode (bits : BitString) : Octets := Der.encode tagBitString bits.toContent

/-- The octets, if all bits are used. -/
def wholeOctets? (bits : BitString) : Option Octets :=
  if bits.unusedBits = 0 then some bits.octets else none

end BitString

/-- Reads a truth value; its content is all zeros or all ones. -/
def boolean : Reader Bool := do
  match ← element tagBoolean with
  | [0x00] => return false
  | [0xFF] => return true
  | _ => failure

end Der
end PlugAndCharge
