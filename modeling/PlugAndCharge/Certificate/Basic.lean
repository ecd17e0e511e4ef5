import PlugAndCharge.Certificate.Name

/-!
# Certificates

X.509 certificates as strict DER.  What a signature covers is the part that `Tbs.encode` writes
again from what was read: fields at their default are left out and sets are in order, whatever the
certificate itself had.
-/

namespace PlugAndCharge

/-! ## Times -/

/-- An instant of the calendar. -/
structure CalendarTime where
  year : Nat
  month : Nat
  day : Nat
  hour : Nat
  minute : Nat
  second : Nat
  deriving DecidableEq, Repr

namespace CalendarTime

/-- Whether a year has a 29 February. -/
def isLeapYear (year : Nat) : Bool :=
  year % 4 = 0 && (year % 100 != 0 || year % 400 = 0)

/-- The number of days of a month. -/
def daysInMonth (year month : Nat) : Nat :=
  if month = 2 then (if isLeapYear year then 29 else 28)
  else if month = 4 ∨ month = 6 ∨ month = 9 ∨ month = 11 then 30
  else 31

/-- Whether the fields are those of an instant, not before 1970. -/
def isValid (time : CalendarTime) : Bool :=
  1970 ≤ time.year && 1 ≤ time.month && time.month ≤ 12 && 1 ≤ time.day &&
    time.day ≤ daysInMonth time.year time.month && time.hour ≤ 23 && time.minute ≤ 59 &&
    time.second ≤ 59

/-- Reads pairs of decimal digits up to a final `Z`. -/
def digitPairs? : Octets → Option (List Nat)
  | [0x5A] => some []
  | high :: low :: rest =>
    if 0x30 ≤ high ∧ high ≤ 0x39 ∧ 0x30 ≤ low ∧ low ≤ 0x39 then
      (digitPairs? rest).map (((high.toNat - 0x30) * 10 + (low.toNat - 0x30)) :: ·)
    else none
  | _ => none

/-- Reads the content of a time with a two-digit year, which lies between 1950 and 2049. -/
def ofUtcTime? (content : Octets) : Option CalendarTime :=
  match digitPairs? content with
  | some [year, month, day, hour, minute, second] =>
    let year := if 50 ≤ year then 1900 + year else 2000 + year
    let time : CalendarTime := { year, month, day, hour, minute, second }
    if time.isValid then some time else none
  | _ => none

/-- Reads the content of a time with a four-digit year. -/
def ofGeneralizedTime? (content : Octets) : Option CalendarTime :=
  match digitPairs? content with
  | some [century, year, month, day, hour, minute, second] =>
    let time : CalendarTime := { year := century * 100 + year, month, day, hour, minute, second }
    if time.isValid then some time else none
  | _ => none

/-- Reads the element of a time; it is kept as it stands. -/
def elementReader : Der.Reader Der.Element := do
  let element ← Der.anyElement
  let time? :=
    if element.tag = Der.tagUtcTime then ofUtcTime? element.content
    else if element.tag = Der.tagGeneralizedTime then ofGeneralizedTime? element.content
    else none
  if time?.isSome then return element else failure

end CalendarTime

/-! ## The parts of a certificate -/

/-- The span in which a certificate may be used. -/
structure Validity where
  notBefore : Der.Element
  notAfter : Der.Element
  deriving DecidableEq, Repr

/-- Reads a span. -/
def Validity.reader : Der.Reader Validity :=
  Der.nested Der.tagSequence do
    let notBefore ← CalendarTime.elementReader
    let notAfter ← CalendarTime.elementReader
    return { notBefore, notAfter }

/-- Writes a span. -/
def Validity.encode (validity : Validity) : Octets :=
  Der.encode Der.tagSequence (validity.notBefore.encode ++ validity.notAfter.encode)

/-- A public key with its algorithm. -/
structure SubjectPublicKey where
  algorithm : AlgorithmIdentifier
  key : Der.BitString
  deriving DecidableEq, Repr

/-- Reads a public key. -/
def SubjectPublicKey.reader : Der.Reader SubjectPublicKey :=
  Der.nested Der.tagSequence do
    let algorithm ← AlgorithmIdentifier.reader
    let key ← Der.BitString.reader
    return { algorithm, key }

/-- Writes a public key. -/
def SubjectPublicKey.encode (subjectKey : SubjectPublicKey) : Octets :=
  Der.encode Der.tagSequence (subjectKey.algorithm.encode ++ subjectKey.key.encode)

/-- An extension of a certificate. -/
structure Extension where
  oid : Oid
  critical : Bool
  value : Octets
  deriving DecidableEq, Repr

/-- Reads an extension; it is not critical unless it says so. -/
def Extension.reader : Der.Reader Extension :=
  Der.nested Der.tagSequence do
    let oid ← Oid.reader
    let critical ← Der.optional Der.tagBoolean Der.boolean
    let value ← Der.element Der.tagOctetString
    return { oid, critical := critical.getD false, value }

/-- Writes an extension. -/
def Extension.encode (extension : Extension) : Octets :=
  Der.encode Der.tagSequence
    (extension.oid.encode ++
      (if extension.critical then Der.encode Der.tagBoolean [0xFF] else []) ++
      Der.encode Der.tagOctetString extension.value)

/-- What the signature of a certificate covers. -/
structure Tbs where
  /-- The version, counted from zero. -/
  version : Nat
  /-- The content of the serial number. -/
  serialNumber : Octets
  signatureAlgorithm : AlgorithmIdentifier
  issuer : DistinguishedName
  validity : Validity
  subject : DistinguishedName
  subjectKey : SubjectPublicKey
  issuerUniqueId : Option Der.BitString
  subjectUniqueId : Option Der.BitString
  extensions : Option (List Extension)
  deriving DecidableEq, Repr

namespace Tbs

/-- The most octets that a serial number may have. -/
def maxSerialLength : Nat := 21

/-- Reads a version, of which there are three. -/
def versionReader : Der.Reader Nat := do
  let version ← Der.natural
  if version ≤ 2 then return version else failure

/-- Reads the part that the signature covers. -/
def reader : Der.Reader Tbs :=
  Der.nested Der.tagSequence do
    let version ← Der.explicitField 0 versionReader
    let serialNumber ← Der.integer maxSerialLength
    let signatureAlgorithm ← AlgorithmIdentifier.reader
    let issuer ← DistinguishedName.reader
    let validity ← Validity.reader
    let subject ← DistinguishedName.reader
    let subjectKey ← SubjectPublicKey.reader
    let issuerUniqueId ← Der.implicitField 1 Der.BitString.ofContent?
    let subjectUniqueId ← Der.implicitField 2 Der.BitString.ofContent?
    let extensions ←
      Der.explicitField 3 (Der.nested Der.tagSequence (Der.many Extension.reader))
    return { version := version.getD 0, serialNumber, signatureAlgorithm, issuer, validity, subject,
             subjectKey, issuerUniqueId, subjectUniqueId, extensions }

/-- Writes the part that the signature covers. -/
def encode (tbs : Tbs) : Octets :=
  Der.encode Der.tagSequence
    ((if tbs.version = 0 then []
      else Der.encode (Der.explicitTag 0)
        (Der.encode Der.tagInteger (Der.naturalContent tbs.version))) ++
      Der.encode Der.tagInteger tbs.serialNumber ++ tbs.signatureAlgorithm.encode ++
      tbs.issuer.encode ++ tbs.validity.encode ++ tbs.subject.encode ++ tbs.subjectKey.encode ++
      tbs.issuerUniqueId.elim [] (fun bits => Der.encode (Der.implicitTag 1) bits.toContent) ++
      tbs.subjectUniqueId.elim [] (fun bits => Der.encode (Der.implicitTag 2) bits.toContent) ++
      tbs.extensions.elim [] (fun extensions =>
        Der.encode (Der.explicitTag 3)
          (Der.encode Der.tagSequence (extensions.flatMap Extension.encode))))

end Tbs

/-- A certificate. -/
structure Certificate where
  tbs : Tbs
  signatureAlgorithm : AlgorithmIdentifier
  signature : Der.BitString
  deriving DecidableEq, Repr

namespace Certificate

/-- Reads a certificate. -/
def reader : Der.Reader Certificate :=
  Der.nested Der.tagSequence do
    let tbs ← Tbs.reader
    let signatureAlgorithm ← AlgorithmIdentifier.reader
    let signature ← Der.BitString.reader
    return { tbs, signatureAlgorithm, signature }

/-- The certificate that octets hold, with nothing after it. -/
def ofDer? (der : Octets) : Option Certificate :=
  Der.whole? reader der

/-- Writes a certificate. -/
def encode (certificate : Certificate) : Octets :=
  Der.encode Der.tagSequence
    (certificate.tbs.encode ++ certificate.signatureAlgorithm.encode ++
      certificate.signature.encode)

end Certificate

end PlugAndCharge
