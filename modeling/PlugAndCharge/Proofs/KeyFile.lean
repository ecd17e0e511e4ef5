import PlugAndCharge.Proofs.Der
import PlugAndCharge.Proofs.Pem
import PlugAndCharge.Proofs.Utf8
import PlugAndCharge.Security.KeyFile

/-!
# Reading key files back

A key file that is written is read as the key that it was written for, under every suite: the public
half in it is the one that the suite gives to the key.
-/

namespace PlugAndCharge

open P256 (Point PrivateKey)

/-! ## Readers -/

namespace Der

variable {α β : Type} {tag : UInt8} {content input rest : Octets}

theorem bind_eq {reader : Reader α} {next : α → Reader β} {value : α}
    (reads : reader input = some (value, rest)) : (reader >>= next) input = next value rest := by
  simp [bind, StateT.bind, reads]

theorem pure_eq (value : α) : (pure value : Reader α) input = some (value, input) := rfl

theorem natural_encode {octet : UInt8} (small : octet < 0x80) (rest : Octets) :
    natural (encode tagInteger [octet] ++ rest) = some (octet.toNat, rest) := by
  have reads : integer maxLength (encode tagInteger [octet] ++ rest) = some ([octet], rest) := by
    rw [integer, bind_eq (element_encode (by decide) (by simp [maxLength]) rest)]
    simp [isCanonicalInteger, maxLength, pure_eq]
  rw [natural, bind_eq reads]
  simp [small, Octets.toNat, pure_eq]

/-- A field that is written is read back. -/
theorem explicitField_encode (number : Nat) {reader : Reader α} {value : α}
    (isTag_tag : isTag (explicitTag number) = true)
    (isContext : isContextTag (explicitTag number) = true)
    (number_eq : (explicitTag number &&& 0x1F).toNat = number)
    (readable : content.length ≤ maxLength) (reads : reader content = some (value, []))
    (rest : Octets) :
    explicitField number reader (encode (explicitTag number) content ++ rest) =
      some (some value, rest) := by
  have element_eq := readElement?_encode isTag_tag readable rest
  obtain ⟨tail, input_eq⟩ : ∃ tail, encode (explicitTag number) content ++ rest =
      explicitTag number :: tail := ⟨_, rfl⟩
  rw [input_eq] at element_eq ⊢
  rw [explicitField, List.length_cons, contextFieldWithin]
  simp only [isTag_tag, isContext, not_true_eq_false, false_or, if_false, number_eq, lt_irrefl,
    if_true, element_eq, whole?_eq_some reads, Option.bind_eq_bind, Option.bind_some]

/-- A field is absent where one with a greater number comes next. -/
theorem explicitField_of_greater (number greater : Nat) (reader : Reader α) (content : Octets)
    (isTag_tag : isTag (explicitTag greater) = true)
    (isGreater : number < (explicitTag greater &&& 0x1F).toNat) :
    explicitField number reader (encode (explicitTag greater) content) =
      some (none, encode (explicitTag greater) content) := by
  obtain ⟨tail, input_eq⟩ : ∃ tail, encode (explicitTag greater) content =
      explicitTag greater :: tail := ⟨_, rfl⟩
  rw [input_eq, explicitField, List.length_cons, contextFieldWithin, if_neg (by simp [isTag_tag]),
    if_pos (.inr isGreater)]

theorem bitString_encode (octets : Octets) (readable : octets.length < maxLength) :
    BitString.reader (BitString.encode ⟨0, octets⟩) = some (⟨0, octets⟩, []) := by
  have fits : (0 :: octets).length ≤ maxLength := Nat.succ_le_of_lt readable
  have reads := element_encode (by decide : isTag tagBitString = true) fits []
  rw [List.append_nil] at reads
  rw [BitString.reader, BitString.encode, BitString.toContent, bind_eq reads]
  simp only [BitString.ofContent?]
  rfl

end Der

/-! ## Documents -/

namespace KeyFile

variable (suite : Suite) (key : PrivateKey)

theorem ofOctets?_toOctets : PrivateKey.ofOctets? key.toOctets = some key := by
  have order_lt : P256.order < 256 ^ 32 := by decide
  have scalar_eq : Octets.toNat key.toOctets = key.scalar :=
    Octets.toNat_ofNat_of_lt (key.lt_order.trans order_lt)
  have length_eq : key.toOctets.length = 32 := Octets.length_ofNat 32 key.scalar
  rw [PrivateKey.ofOctets?, if_pos ⟨by omega, by omega⟩, scalar_eq]
  simp [PrivateKey.ofNat?, key.pos, key.lt_order]

theorem length_toSec1 (point : Point) : point.toSec1.length = 65 := by
  simp [Point.toSec1, Octets.length_ofNat]

/-- What a sequence holds is read as a whole. -/
private theorem whole?_sequence {α : Type} {reader : Der.Reader α} {content : Octets} (value : α)
    (readable : content.length ≤ Der.maxLength) (reads : reader content = some (value, [])) :
    Der.whole? (Der.nested Der.tagSequence reader) (Der.encode Der.tagSequence content) =
      some value := by
  have nested := Der.nested_encode (by decide : Der.isTag Der.tagSequence = true) readable reads []
  rw [List.append_nil] at nested
  exact Der.whole?_eq_some nested

theorem length_publicHalf_le (point : Point) :
    (Der.BitString.encode ⟨0, point.toSec1⟩).length ≤ 72 := by
  have length_point := length_toSec1 point
  have length_le := Der.length_encode_le Der.tagBitString
    (by simp [length_point, Der.maxLength] : (0 :: point.toSec1).length ≤ Der.maxLength)
  rw [List.length_cons, length_point] at length_le
  exact length_le

theorem length_sec1Content_le :
    (Der.encode Der.tagInteger [1] ++ Der.encode Der.tagOctetString key.toOctets ++
      Der.encode (Der.explicitTag 1)
        (Der.BitString.encode ⟨0, (suite.publicPoint key).toSec1⟩)).length ≤ 123 := by
  have max_eq : Der.maxLength = 268435455 := rfl
  have length_scalar : key.toOctets.length = 32 := Octets.length_ofNat 32 key.scalar
  have length_point := length_publicHalf_le (suite.publicPoint key)
  have version_le := Der.length_encode_le Der.tagInteger
    (by simp [max_eq] : ([1] : Octets).length ≤ Der.maxLength)
  have scalar_le := Der.length_encode_le Der.tagOctetString
    (by omega : key.toOctets.length ≤ Der.maxLength)
  have point_le := Der.length_encode_le (Der.explicitTag 1) (length_point.trans (by decide))
  rw [List.length_singleton] at version_le
  rw [List.length_append, List.length_append]
  omega

theorem length_sec1Document_le : (sec1Document suite key).length ≤ 129 :=
  (Der.length_encode_le _ ((length_sec1Content_le suite key).trans (by decide))).trans
    (Nat.add_le_add_right (length_sec1Content_le suite key) 6)

/-- The SEC 1 document of a key is read as the key. -/
theorem ofSec1?_sec1Document : ofSec1? suite (sec1Document suite key) = some key := by
  have length_scalar : key.toOctets.length ≤ Der.maxLength :=
    (Octets.length_ofNat 32 key.scalar).le.trans (by decide)
  have length_point := length_publicHalf_le (suite.publicPoint key)
  have readable : (suite.publicPoint key).toSec1.length < Der.maxLength := by
    rw [length_toSec1]
    decide
  have readsScalar := Der.element_encode (by decide : Der.isTag Der.tagOctetString = true)
    length_scalar
  have noCurve := Der.explicitField_of_greater 0 1 Oid.reader
    (Der.BitString.encode ⟨0, (suite.publicPoint key).toSec1⟩) (by decide) (by decide)
  have readsPoint := Der.explicitField_encode 1 (by decide) (by decide) (by decide)
    (length_point.trans (by decide)) (Der.bitString_encode _ readable) []
  rw [List.append_nil] at readsPoint
  rw [ofSec1?, sec1Document,
    whole?_sequence (key.toOctets, some ⟨0, (suite.publicPoint key).toSec1⟩)
      ((length_sec1Content_le suite key).trans (by decide)) ?_]
  · simp [ofOctets?_toOctets, Der.BitString.wholeOctets?, isPublicHalf]
  · rw [List.append_assoc, Der.bind_eq (Der.natural_encode (by decide) _), if_neg (by decide)]
    beta_reduce
    rw [Der.bind_eq (readsScalar _), Der.bind_eq noCurve, Der.bind_eq readsPoint]
    rfl

theorem reader_keyAlgorithm (rest : Octets) :
    AlgorithmIdentifier.reader (keyAlgorithm.encode ++ rest) = some (keyAlgorithm, rest) :=
  Der.nested_encode (by decide) (by decide) rfl rest

/-- The PKCS #8 document of a key is read as the key. -/
theorem ofPkcs8?_pkcs8Document : ofPkcs8? suite (pkcs8Document suite key) = some key := by
  have length_document := length_sec1Document_le suite key
  have readsDocument := Der.element_encode (by decide : Der.isTag Der.tagOctetString = true)
    (length_document.trans (by decide)) []
  rw [List.append_nil] at readsDocument
  have readable : (Der.encode Der.tagInteger [0] ++ keyAlgorithm.encode ++
      Der.encode Der.tagOctetString (sec1Document suite key)).length ≤ Der.maxLength := by
    have max_eq : Der.maxLength = 268435455 := rfl
    have front_eq : (Der.encode Der.tagInteger [0] ++ keyAlgorithm.encode).length = 24 := by decide
    have document_le := Der.length_encode_le Der.tagOctetString
      (length_document.trans (by decide))
    rw [List.length_append, front_eq]
    omega
  rw [ofPkcs8?, pkcs8Document, whole?_sequence (keyAlgorithm, sec1Document suite key) readable ?_]
  · simp only [Option.bind_eq_bind, Option.bind_some, if_true, ofSec1?_sec1Document]
  · rw [List.append_assoc, Der.bind_eq (Der.natural_encode (by decide) _), if_neg (by decide)]
    beta_reduce
    rw [Der.bind_eq (reader_keyAlgorithm _), Der.bind_eq readsDocument]
    rfl

/-! ## Files -/

/-- A key file that is written is read as the key that it was written for. -/
theorem decode_encode : decode suite (encode suite key) = .ok key := by
  have notNil : pkcs8Document suite key ≠ [] := List.cons_ne_nil _ _
  have isDocument := Pem.decode?_encode pkcs8Label notNil
  rw [decode, encode, isDocument, Option.bind_some, ofPkcs8?_pkcs8Document, Option.some_or]

/-- A key file is a text. -/
theorem isSome_toText?_encode : (Octets.toText? (encode suite key)).isSome = true :=
  (Octets.isText_of_ascii (Pem.ascii_encode (by decide +kernel))).isSome_toText?

end KeyFile
end PlugAndCharge
