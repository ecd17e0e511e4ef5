import PlugAndCharge.Encoding.Oid

/-!
# Distinguished names

The name of a subject or an issuer: a sequence of sets of attributes.  Two names are equal when
their attributes are, string types included.  A name is shown as RFC 4514 lays down: the last set
first, an attribute as its short name and its escaped text, or as its identifier and its encoding in
hexadecimal if it has no short name or is not a valid text.
-/

namespace PlugAndCharge

/-- One attribute of a name. -/
structure Attribute where
  oid : Oid
  value : Der.Element
  deriving DecidableEq, Repr

namespace Attribute

/-- Reads an attribute. -/
def reader : Der.Reader Attribute :=
  Der.nested Der.tagSequence do
    let oid ← Oid.reader
    let value ← Der.anyElement
    return { oid, value }

/-- Writes an attribute. -/
def encode (entry : Attribute) : Octets :=
  Der.encode Der.tagSequence (entry.oid.encode ++ entry.value.encode)

/-! ## Text -/

/-- The short names of attribute types, by the content of the identifier. -/
def shortNames : List (Octets × String) :=
  [([0x55, 0x04, 0x03], "CN"),
   ([0x55, 0x04, 0x04], "SN"),
   ([0x55, 0x04, 0x05], "SERIALNUMBER"),
   ([0x55, 0x04, 0x06], "C"),
   ([0x55, 0x04, 0x07], "L"),
   ([0x55, 0x04, 0x08], "ST"),
   ([0x55, 0x04, 0x09], "STREET"),
   ([0x55, 0x04, 0x0A], "O"),
   ([0x55, 0x04, 0x0B], "OU"),
   ([0x55, 0x04, 0x0C], "TITLE"),
   ([0x55, 0x04, 0x0D], "DESCRIPTION"),
   ([0x55, 0x04, 0x0E], "SEARCHGUIDE"),
   ([0x55, 0x04, 0x0F], "BUSINESSCATEGORY"),
   ([0x55, 0x04, 0x10], "POSTALADDRESS"),
   ([0x55, 0x04, 0x11], "POSTALCODE"),
   ([0x55, 0x04, 0x12], "POSTOFFICEBOX"),
   ([0x55, 0x04, 0x13], "PHYSICALDELIVERYOFFICENAME"),
   ([0x55, 0x04, 0x14], "TELEPHONENUMBER"),
   ([0x55, 0x04, 0x15], "TELEXNUMBER"),
   ([0x55, 0x04, 0x16], "TELETEXTERMINALIDENTIFIER"),
   ([0x55, 0x04, 0x17], "FACSIMILETELEPHONENUMBER"),
   ([0x55, 0x04, 0x18], "X121ADDRESS"),
   ([0x55, 0x04, 0x19], "INTERNATIONALISDNNUMBER"),
   ([0x55, 0x04, 0x1A], "REGISTEREDADDRESS"),
   ([0x55, 0x04, 0x1B], "DESTINATIONINDICATOR"),
   ([0x55, 0x04, 0x1C], "PREFERREDDELIVERYMETHOD"),
   ([0x55, 0x04, 0x1F], "MEMBER"),
   ([0x55, 0x04, 0x20], "OWNER"),
   ([0x55, 0x04, 0x21], "ROLEOCCUPANT"),
   ([0x55, 0x04, 0x22], "SEEALSO"),
   ([0x55, 0x04, 0x23], "USERPASSWORD"),
   ([0x55, 0x04, 0x29], "NAME"),
   ([0x55, 0x04, 0x2A], "GIVENNAME"),
   ([0x55, 0x04, 0x2B], "INITIALS"),
   ([0x55, 0x04, 0x2C], "GENERATIONQUALIFIER"),
   ([0x55, 0x04, 0x2D], "X500UNIQUEIDENTIFIER"),
   ([0x55, 0x04, 0x2E], "DNQUALIFIER"),
   ([0x55, 0x04, 0x2F], "ENHANCEDSEARCHGUIDE"),
   ([0x55, 0x04, 0x31], "DISTINGUISHEDNAME"),
   ([0x55, 0x04, 0x32], "UNIQUEMEMBER"),
   ([0x55, 0x04, 0x33], "HOUSEIDENTIFIER"),
   ([0x55, 0x04, 0x41], "PSEUDONYM"),
   ([0x09, 0x92, 0x26, 0x89, 0x93, 0xF2, 0x2C, 0x64, 0x01, 0x01], "UID"),
   ([0x09, 0x92, 0x26, 0x89, 0x93, 0xF2, 0x2C, 0x64, 0x01, 0x19], "DC"),
   ([0x2A, 0x86, 0x48, 0x86, 0xF7, 0x0D, 0x01, 0x09, 0x01], "EMAIL")]

/-- The short name of the attribute's type. -/
def shortName? (entry : Attribute) : Option String :=
  (shortNames.find? fun (content, _) => content == entry.oid.content).map (·.2)

/-- The punctuation of a printable string. -/
def printablePunctuation : Octets :=
  Octets.ofText " '()+,-./:=?"

/-- Whether an octet may stand in a printable string. -/
def isPrintable (octet : UInt8) : Bool :=
  (0x41 ≤ octet && octet ≤ 0x5A) || (0x61 ≤ octet && octet ≤ 0x7A) ||
    (0x30 ≤ octet && octet ≤ 0x39) || printablePunctuation.contains octet

/-- The text of the value, if it is a valid string of one of the types that are shown as text. -/
def text? (entry : Attribute) : Option String :=
  let content := entry.value.content
  let tag := entry.value.tag
  if tag = Der.tagPrintableString then
    if content.all isPrintable then Octets.toText? content else none
  else if tag = Der.tagIa5String ∨ tag = Der.tagTeletexString then
    if content.all (· < 0x80) then Octets.toText? content else none
  else if tag = Der.tagUtf8String then Octets.toText? content
  else none

/-- The characters that are always escaped by a backslash. -/
def escapedCharacters : List Char := ['"', '+', ',', ';', '<', '>', '\\']

/-- One character of a value.  A number sign is escaped at the front, a space at either end. -/
def escape (first last : Bool) (character : Char) : List Char :=
  if character = '#' ∧ first then ['\\', '#']
  else if character = ' ' ∧ (first ∨ last) then ['\\', ' ']
  else if escapedCharacters.contains character then ['\\', character]
  else if character.toNat < 0x20 ∨ character.toNat = 0x7F then
    '\\' :: Octets.hexDigits 'a' [UInt8.ofNat character.toNat]
  else [character]

/-- The characters of a value; `first` tells whether they start it. -/
def escapeAll (first : Bool) : List Char → List Char
  | [] => []
  | character :: rest => escape first (rest = []) character ++ escapeAll false rest

/-- The attribute as text. -/
def toText (entry : Attribute) : String :=
  match entry.shortName?, entry.text? with
  | some name, some text => name ++ "=" ++ String.ofList (escapeAll true text.toList)
  | _, _ => entry.oid.toDotted ++ "=#" ++ entry.value.encode.toHex

end Attribute

/-- A distinguished name. -/
structure DistinguishedName where
  /-- The sets of attributes, the most general first; each set is in the order of its encodings. -/
  parts : List (List Attribute)
  deriving DecidableEq, Repr

namespace DistinguishedName

/-- Whether an encoding comes before another in a set. -/
def precedes : Octets → Octets → Bool
  | [], _ => true
  | _ :: _, [] => false
  | left :: lefts, right :: rights => left < right || (left == right && precedes lefts rights)

/-- The attributes of a set in the order of their encodings. -/
def sortSet (attributes : List Attribute) : List Attribute :=
  attributes.mergeSort fun left right => precedes left.encode right.encode

/-- Reads a set of attributes, in any order.  No attribute may occur twice. -/
def partReader : Der.Reader (List Attribute) :=
  Der.nested Der.tagSet do
    let attributes ← Der.many Attribute.reader
    if attributes.eraseDups.length = attributes.length then return sortSet attributes else failure

/-- Reads a name. -/
def reader : Der.Reader DistinguishedName :=
  Der.nested Der.tagSequence do
    let parts ← Der.many partReader
    return { parts }

/-- Writes a name. -/
def encode (name : DistinguishedName) : Octets :=
  Der.encode Der.tagSequence
    (name.parts.flatMap fun part => Der.encode Der.tagSet (part.flatMap Attribute.encode))

/-- The name as text. -/
def toText (name : DistinguishedName) : String :=
  ",".intercalate (name.parts.reverse.map fun part => "+".intercalate (part.map Attribute.toText))

/-- The content of the first common name. -/
def commonName? (name : DistinguishedName) : Option Octets :=
  (name.parts.flatten.find? fun entry => entry.oid == Oid.commonName).map (·.value.content)

end DistinguishedName

end PlugAndCharge
