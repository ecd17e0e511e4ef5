import PlugAndCharge.Proofs.Framing

/-!
# Headers of frames

A header is read only as it is written.  Its fields fill the eight octets, so any eight octets are
the fields of a header; each field but the length has one value that is accepted, and the length is
accepted up to the longest payload.  An accepted header is therefore determined by its length, and
every other one is refused for the first of its fields that is wrong.
-/

namespace PlugAndCharge
namespace Frame

/-- The fields of a header are refused with a fault: for the version or its complement before the
type of the payload, and for the type before the length. -/
inductive HeaderFields.Refused (fields : HeaderFields) : TransportError → Prop
  | version (wrong : fields.first ≠ version ∨ fields.complement ≠ ~~~version) :
    Refused fields (.invalidHeader (.version fields.first fields.complement))
  | payloadType (first : fields.first = version) (complement : fields.complement = ~~~version)
    (wrong : fields.payloadType ≠ jsonPayload) :
    Refused fields (.invalidHeader (.payloadType fields.payloadType))
  | length (first : fields.first = version) (complement : fields.complement = ~~~version)
    (isJson : fields.payloadType = jsonPayload) (long : maxLength < fields.length.toNat) :
    Refused fields (.tooLarge fields.length.toNat)

variable {fields : HeaderFields} {error : TransportError} {octets rest left : Octets} {length : Nat}

/-! ## Fields -/

/-- Any eight octets are the fields of a header. -/
theorem exists_headerFields (width : octets.length = headerLength) :
    ∃ fields : HeaderFields, fields.octets = octets := by
  obtain ⟨first, tail, rfl⟩ := List.exists_cons_of_length_eq_add_one width
  obtain ⟨complement, tail, rfl⟩ := List.exists_cons_of_length_eq_add_one (Nat.succ.inj width)
  -- The first two octets are fields themselves, and the other six hold two numbers.
  have six : tail.length = 6 := Nat.succ.inj (Nat.succ.inj width)
  obtain ⟨payloadType, type_lt, typeDigits⟩ :=
    Octets.exists_ofNat_eq (by simp [six] : (tail.take 2).length = 2)
  obtain ⟨length, length_lt, lengthDigits⟩ :=
    Octets.exists_ofNat_eq (by simp [six] : (tail.drop 2).length = 4)
  refine ⟨⟨first, complement, .ofNat payloadType, .ofNat length⟩, ?_⟩
  rw [HeaderFields.octets, UInt16.toNat_ofNat_of_lt' type_lt, UInt32.toNat_ofNat_of_lt' length_lt,
    typeDigits, lengthDigits, List.take_append_drop]

/-- The length is the only field that an accepted header leaves open. -/
theorem readHeader_octets_eq_ok :
    readHeader (fields.octets ++ rest) = .ok (length, left) ↔
      fields = .json fields.length ∧ fields.length.toNat ≤ maxLength ∧
        length = fields.length.toNat ∧ left = rest := by
  obtain ⟨first, complement, payloadType, field⟩ := fields
  rw [readHeader_octets]
  cases checked : checkHeader first complement payloadType field.toNat with
  | error error =>
    simp only [Except.map, reduceCtorEq, false_iff]
    rintro ⟨same, short, -, -⟩
    obtain ⟨rfl, rfl, rfl, -⟩ := HeaderFields.mk.inj same
    simp [checkHeader_eq_ok.mpr ⟨rfl, rfl, rfl, short, rfl⟩] at checked
  | ok found =>
    obtain ⟨rfl, rfl, rfl, short, rfl⟩ := checkHeader_eq_ok.mp checked
    simp [Except.map, HeaderFields.json, short, eq_comm]

theorem checkHeader_eq_error :
    checkHeader fields.first fields.complement fields.payloadType fields.length.toNat =
        .error error ↔ fields.Refused error := by
  unfold checkHeader
  constructor
  · intro failure
    split_ifs at failure with versions types long <;> cases failure
    · exact .version versions
    · obtain ⟨first, complement⟩ := not_or.mp versions
      exact .payloadType (not_not.mp first) (not_not.mp complement) types
    · obtain ⟨first, complement⟩ := not_or.mp versions
      exact .length (not_not.mp first) (not_not.mp complement) (not_not.mp types) long
  · intro refused
    cases refused with
    | version wrong => simp [wrong]
    | payloadType first complement wrong => simp [first, complement, wrong]
    | length first complement isJson long => simp [first, complement, isJson, long]

theorem readHeader_octets_eq_error :
    readHeader (fields.octets ++ rest) = .error error ↔ fields.Refused error := by
  rw [readHeader_octets, ← checkHeader_eq_error]
  cases checkHeader fields.first fields.complement fields.payloadType fields.length.toNat <;>
    simp [Except.map]

/-! ## Written headers -/

theorem writeHeader_eq_ok :
    writeHeader jsonPayload length = .ok octets ↔ length ≤ maxLength ∧ octets = header length := by
  unfold writeHeader
  split_ifs with long
  · simp [long]
  · simp [not_lt.mp long, header, eq_comm]

/-- Eight octets are accepted with a length just if they are what is written for it. -/
theorem readHeader_eq_ok_iff_writeHeader (width : octets.length = headerLength) :
    readHeader (octets ++ rest) = .ok (length, left) ↔
      writeHeader jsonPayload length = .ok octets ∧ left = rest := by
  constructor
  · intro success
    obtain ⟨fields, rfl⟩ := exists_headerFields width
    obtain ⟨isJson, short, rfl, rfl⟩ := readHeader_octets_eq_ok.mp success
    refine ⟨writeHeader_eq_ok.mpr ⟨short, ?_⟩, rfl⟩
    rw [isJson, octets_json]
    rfl
  · rintro ⟨written, rfl⟩
    obtain ⟨short, rfl⟩ := writeHeader_eq_ok.mp written
    exact readHeader_header short left

/-- Reading accepts exactly the headers that are written.  Eight octets, whatever follows them, are
accepted with a length just if they are its header; then the length is in bounds, and another header
has another length.  Octets that are the header of no length are refused, for the first of their
fields that is wrong. -/
theorem header_read_iff_written (width : octets.length = headerLength) (rest : Octets) :
    (∀ length left, readHeader (octets ++ rest) = .ok (length, left) ↔
        writeHeader jsonPayload length = .ok octets ∧ left = rest) ∧
      (∀ length left, readHeader (octets ++ rest) = .ok (length, left) → length ≤ 65536) ∧
      (∀ other : Octets, other.length = headerLength → octets ≠ other →
        ∀ length otherLength left otherLeft,
          readHeader (octets ++ rest) = .ok (length, left) →
            readHeader (other ++ rest) = .ok (otherLength, otherLeft) → length ≠ otherLength) ∧
      ((∀ length, writeHeader jsonPayload length ≠ .ok octets) ↔
        ∃ error, readHeader (octets ++ rest) = .error error) ∧
      ∀ error, readHeader (octets ++ rest) = .error error ↔
        ∃ fields : HeaderFields, fields.octets = octets ∧ fields.Refused error := by
  refine ⟨fun _ _ => readHeader_eq_ok_iff_writeHeader width, ?_, ?_, ?_, ?_⟩
  · intro length left success
    exact (writeHeader_eq_ok.mp ((readHeader_eq_ok_iff_writeHeader width).mp success).1).1
  · rintro other otherWidth differ length _ left otherLeft success otherSuccess rfl
    have written := ((readHeader_eq_ok_iff_writeHeader width).mp success).1
    have otherWritten := ((readHeader_eq_ok_iff_writeHeader otherWidth).mp otherSuccess).1
    exact differ (Except.ok.inj (written.symm.trans otherWritten))
  · constructor
    · intro unwritten
      cases read : readHeader (octets ++ rest) with
      | error error => exact ⟨error, rfl⟩
      | ok found =>
        exact absurd ((readHeader_eq_ok_iff_writeHeader width).mp read).1 (unwritten found.1)
    · rintro ⟨error, failure⟩ length written
      cases failure.symm.trans ((readHeader_eq_ok_iff_writeHeader width).mpr ⟨written, rfl⟩)
  · intro error
    constructor
    · intro failure
      obtain ⟨fields, rfl⟩ := exists_headerFields width
      exact ⟨fields, rfl, readHeader_octets_eq_error.mp failure⟩
    · rintro ⟨fields, rfl, refused⟩
      exact readHeader_octets_eq_error.mpr refused

/-- The longest payload has a header that is read, and one octet more is too long. -/
theorem longest_header_read :
    ([0x01, 0xFE, 0xA0, 0x00, 0x00, 0x01, 0x00, 0x00] : Octets).length = headerLength ∧
      writeHeader jsonPayload 65536 = .ok [0x01, 0xFE, 0xA0, 0x00, 0x00, 0x01, 0x00, 0x00] ∧
      readHeader ([0x01, 0xFE, 0xA0, 0x00, 0x00, 0x01, 0x00, 0x00] ++ [0x7B]) =
        .ok (65536, [0x7B]) ∧
      readHeader ([0x01, 0xFE, 0xA0, 0x00, 0x00, 0x01, 0x00, 0x01] ++ [0x7B]) =
        .error (.tooLarge 65537) := by
  refine ⟨rfl, rfl, ?_, ?_⟩
  · exact ((header_read_iff_written rfl [0x7B]).1 65536 [0x7B]).mpr ⟨rfl, rfl⟩
  · exact ((header_read_iff_written rfl [0x7B]).2.2.2.2 (.tooLarge 65537)).mpr
      ⟨.json 65537, rfl, .length rfl rfl rfl (by decide)⟩

end Frame
end PlugAndCharge
