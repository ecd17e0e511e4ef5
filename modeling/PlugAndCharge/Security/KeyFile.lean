import PlugAndCharge.Encoding.Oid
import PlugAndCharge.Encoding.Pem
import PlugAndCharge.Security.Error
import PlugAndCharge.Security.Suite

/-!
# Key files

A private key is kept as a PKCS #8 document in PEM, with its public half.  A SEC 1 document is read
as well.  A public half in either must belong to the key.
-/

namespace PlugAndCharge
namespace KeyFile

open P256 (Point PrivateKey)

/-- The label of a PKCS #8 document. -/
def pkcs8Label : String := "PRIVATE KEY"

/-- The label of a SEC 1 document. -/
def sec1Label : String := "EC PRIVATE KEY"

/-! ## Writing -/

/-- The SEC 1 document of a key: version 1, the scalar and the public half. -/
def sec1Document (suite : Suite) (key : PrivateKey) : Octets :=
  Der.encode Der.tagSequence
    (Der.encode Der.tagInteger [1] ++ Der.encode Der.tagOctetString key.toOctets ++
      Der.encode (Der.explicitTag 1)
        (Der.BitString.encode ⟨0, (suite.publicPoint key).toSec1⟩))

/-- The algorithm of a key on P-256. -/
def keyAlgorithm : AlgorithmIdentifier where
  oid := Oid.ecPublicKey
  parameters := some ⟨Der.tagOid, Oid.p256Curve.content⟩

/-- The PKCS #8 document of a key. -/
def pkcs8Document (suite : Suite) (key : PrivateKey) : Octets :=
  Der.encode Der.tagSequence
    (Der.encode Der.tagInteger [0] ++ keyAlgorithm.encode ++
      Der.encode Der.tagOctetString (sec1Document suite key))

/-- The octets of a key file. -/
def encode (suite : Suite) (key : PrivateKey) : Octets :=
  Pem.encode pkcs8Label (pkcs8Document suite key)

/-! ## Reading -/

/-- Whether octets are an encoding of the public half of a key, compressed or not. -/
def isPublicHalf (suite : Suite) (key : PrivateKey) (octets : Octets) : Bool :=
  let point := suite.publicPoint key
  let compressed : Octets := (if point.y % 2 = 0 then 0x02 else 0x03) :: Octets.ofNat 32 point.x
  octets == point.toSec1 || octets == compressed

/-- Reads a SEC 1 document.  The curve in it is not looked at. -/
def ofSec1? (suite : Suite) (der : Octets) : Option PrivateKey := do
  let (scalar, publicHalf) ← Der.whole? (Der.nested Der.tagSequence do
    let version ← Der.natural
    if version ≠ 1 then failure
    let scalar ← Der.element Der.tagOctetString
    let _curve ← Der.explicitField 0 Oid.reader
    let publicHalf ← Der.explicitField 1 Der.BitString.reader
    return (scalar, publicHalf)) der
  let key ← PrivateKey.ofOctets? scalar
  match publicHalf with
  | none => return key
  | some bits =>
    let octets ← bits.wholeOctets?
    if isPublicHalf suite key octets then return key else none

/-- Reads a field of a later version, which is passed over. -/
def laterField : Der.Reader Unit := do
  let field ← Der.anyElement
  if Der.isContextTag field.tag ∧ field.tag &&& 0x20 ≠ 0 then
    match Der.whole? Der.anyElement field.content with
    | some _ => return ()
    | none => failure
  else failure

/-- Reads a PKCS #8 document.  Version 1 goes with a public key beside the private one. -/
def ofPkcs8? (suite : Suite) (der : Octets) : Option PrivateKey := do
  let (algorithm, document) ← Der.whole? (Der.nested Der.tagSequence do
    let version ← Der.natural
    if 1 < version then failure
    let algorithm ← AlgorithmIdentifier.reader
    let document ← Der.element Der.tagOctetString
    let publicKey ← Der.implicitField 1 fun content => do
      let bits ← Der.BitString.ofContent? content
      bits.wholeOctets?
    if (version = 1) ≠ (publicKey.isSome = true) then failure
    let _later ← Der.many laterField
    return (algorithm, document)) der
  if algorithm = keyAlgorithm then ofSec1? suite document else none

/-- Reads a key file in either form. -/
def decode (suite : Suite) (text : Octets) : Except KeyFault PrivateKey :=
  let pkcs8 := (Pem.decode? pkcs8Label text).bind (ofPkcs8? suite)
  let sec1 := (Pem.decode? sec1Label text).bind (ofSec1? suite)
  match pkcs8.or sec1 with
  | some key => .ok key
  | none => .error .unreadable

end KeyFile
end PlugAndCharge
