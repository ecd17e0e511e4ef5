import PlugAndCharge.Encoding.Der

/-!
# Object identifiers

An object identifier is kept as its encoded content, in which each arc after the first two takes one
octet for every seven bits.  The arcs are computed only to be shown.
-/

namespace PlugAndCharge

/-- An object identifier by its encoded content. -/
structure Oid where
  content : Octets
  deriving DecidableEq, Repr

namespace Oid

/-- The arcs after the first two, each of at most 32 bits.  `taken` octets of the present arc have
been read. -/
def arcsFrom? : (value taken : Nat) → Octets → Option (List Nat)
  | _, taken, [] => if taken = 0 then some [] else none
  | value, taken, octet :: rest =>
    if 4 ≤ taken ∧ octet ≥ 0x10 then none
    else
      let value := (value * 128 + (octet &&& 0x7F).toNat) % 0x100000000
      if octet < 0x80 then (arcsFrom? 0 0 rest).map (value :: ·)
      else arcsFrom? value (taken + 1) rest

/-- All arcs.  The first octet holds the first two. -/
def arcs? (oid : Oid) : Option (List Nat) :=
  match oid.content with
  | [] => none
  | first :: rest =>
    if first.toNat < 120 then
      (arcsFrom? 0 0 rest).map fun arcs => first.toNat / 40 :: first.toNat % 40 :: arcs
    else none

/-- Reads the content of an object identifier: three to thirty-nine octets with well-formed arcs. -/
def ofContent? (content : Octets) : Option Oid :=
  let oid : Oid := ⟨content⟩
  if 3 ≤ content.length ∧ content.length ≤ 39 ∧ oid.arcs?.isSome then some oid else none

/-- Reads an object identifier. -/
def reader : Der.Reader Oid := do
  let content ← Der.element Der.tagOid
  ofContent? content

/-- Writes an object identifier. -/
def encode (oid : Oid) : Octets := Der.encode Der.tagOid oid.content

/-- The arcs with dots between them. -/
def toDotted (oid : Oid) : String :=
  ".".intercalate ((oid.arcs?.getD []).map toString)

/-- The algorithm `id-ecPublicKey` of keys on elliptic curves. -/
def ecPublicKey : Oid := ⟨[0x2A, 0x86, 0x48, 0xCE, 0x3D, 0x02, 0x01]⟩

/-- The curve P-256. -/
def p256Curve : Oid := ⟨[0x2A, 0x86, 0x48, 0xCE, 0x3D, 0x03, 0x01, 0x07]⟩

/-- ECDSA with SHA-256. -/
def ecdsaWithSha256 : Oid := ⟨[0x2A, 0x86, 0x48, 0xCE, 0x3D, 0x04, 0x03, 0x02]⟩

/-- The common name of a subject. -/
def commonName : Oid := ⟨[0x55, 0x04, 0x03]⟩

end Oid

/-- An algorithm with its parameters, if it has any. -/
structure AlgorithmIdentifier where
  oid : Oid
  parameters : Option Der.Element
  deriving DecidableEq, Repr

namespace AlgorithmIdentifier

/-- Reads an algorithm identifier. -/
def reader : Der.Reader AlgorithmIdentifier :=
  Der.nested Der.tagSequence do
    let oid ← Oid.reader
    let rest ← get
    if rest = [] then return { oid, parameters := none }
    else
      let parameters ← Der.anyElement
      return { oid, parameters := some parameters }

/-- Writes an algorithm identifier. -/
def encode (algorithm : AlgorithmIdentifier) : Octets :=
  Der.encode Der.tagSequence
    (algorithm.oid.encode ++ (algorithm.parameters.elim [] Der.Element.encode))

end AlgorithmIdentifier

end PlugAndCharge
