import PlugAndCharge.Proofs.Numeral

/-!
# Lawful wire forms

A wire form is lawful if every written value reads back, in front of whatever can follow a value.
The wire forms of truth values, texts, integers, lists and enumerations are lawful.
-/

namespace PlugAndCharge
namespace Json

/-- An octet that tells a value from the end of an array and from `null`. -/
def opensValue (octet : UInt8) : Bool :=
  !isBlank octet && octet != closeBracket && octet != 0x6E

/-- Every written value reads back, and its first octet says that it is there. -/
class LawfulWire (α : Type) [Wire α] : Prop where
  write_eq_cons (value : α) :
    ∃ octet rest, Wire.write value = octet :: rest ∧ opensValue octet = true
  read_write (value : α) {rest : Octets} :
    Follows rest → Wire.read (Wire.write value ++ rest) = .ok (value, rest)

/-- Every written value is read back from the whole of the text. -/
theorem decode_write {α : Type} [Wire α] [LawfulWire α] (value : α) :
    decode (Wire.write value) = .ok value := by
  have read := LawfulWire.read_write value follows_nil
  rw [List.append_nil] at read
  rw [decode, readAll, read]
  rfl

/-- Different values are written differently. -/
theorem write_injective {α : Type} [Wire α] [LawfulWire α] :
    Function.Injective (Wire.write : α → Octets) := by
  intro first second same
  have read := decode_write first
  rw [same, decode_write] at read
  exact (Except.ok.inj read).symm

section opensValue

variable {octet : UInt8}

theorem isBlank_of_opensValue (opens : opensValue octet = true) : isBlank octet = false := by
  simp only [opensValue, Bool.and_eq_true, Bool.not_eq_true'] at opens
  exact opens.1.1

theorem ne_closeBracket_of_opensValue (opens : opensValue octet = true) :
    octet ≠ closeBracket := by
  rintro rfl
  exact absurd opens (by decide)

theorem ne_null_of_opensValue (opens : opensValue octet = true) : octet ≠ 0x6E := by
  rintro rfl
  exact absurd opens (by decide)

theorem opensValue_of_isNumeral (numeral : octet = minus ∨ isDigit octet = true) :
    opensValue octet = true := by
  have solid := isBlank_eq_false_of_isNumeral numeral
  have notBracket : octet ≠ closeBracket := by
    rintro rfl
    exact absurd numeral (by decide)
  have notNull : octet ≠ 0x6E := by
    rintro rfl
    exact absurd numeral (by decide)
  simp only [opensValue, solid, Bool.not_false, Bool.true_and, Bool.and_eq_true, bne_iff_ne]
  exact ⟨notBracket, notNull⟩

end opensValue

/-! ## Truth values and texts -/

instance : LawfulWire Bool where
  write_eq_cons value := by
    cases value with
    | false => exact ⟨0x66, alse, rfl, by decide⟩
    | true => exact ⟨0x74, rue, rfl, by decide⟩
  read_write value rest _ := by
    cases value with
    | false =>
        show (readWord alse (alse ++ rest)).map (false, ·) = _
        rw [readWord_append]
        rfl
    | true =>
        show (readWord rue (rue ++ rest)).map (true, ·) = _
        rw [readWord_append]
        rfl

theorem writeText_append (text : String) (rest : Octets) :
    writeText text ++ rest =
      quote :: ((Octets.ofText text).flatMap escapeOctet ++ quote :: rest) := by
  simp [writeText]

theorem readText_writeText (text : String) (rest : Octets) :
    readText (writeText text ++ rest) = .ok (text, rest) := by
  rw [writeText_append, readText, skipBlanks_cons _ (by decide)]
  exact readQuoted_writeText text rest

instance : LawfulWire String where
  write_eq_cons text := ⟨quote, _, rfl, by decide⟩
  read_write text rest _ := readText_writeText text rest

/-! ## Integers -/

section Integers

/-- Unsigned integers are lawful if they convert to numbers within their width and back. -/
theorem lawful_unsigned {α : Type} [Wire α] {width : Nat} {toNat : α → Nat} {ofNat : Nat → α}
    (write_eq : ∀ value : α, Wire.write value = writeNat (toNat value))
    (read_eq : ∀ input, (Wire.read input : Except Flaw (α × Octets)) =
      (readUnsigned width input).map fun (number, rest) => (ofNat number, rest))
    (narrow : width ≤ 64) (fits : ∀ value, toNat value < wordCount width)
    (ofNat_toNat : ∀ value, ofNat (toNat value) = value) : LawfulWire α where
  write_eq_cons value := by
    obtain ⟨octet, rest, shape, numeral⟩ := writeInt_eq_cons (toNat value)
    exact ⟨octet, rest, (write_eq value).trans shape, opensValue_of_isNumeral numeral⟩
  read_write value rest follows := by
    rw [write_eq, read_eq, readUnsigned_writeNat narrow (fits value) follows]
    simp only [Except.map, ofNat_toNat]

/-- Signed integers are lawful if they convert to integers within their width and back. -/
theorem lawful_signed {α : Type} [Wire α] {width : Nat} {toInt : α → Int} {ofInt : Int → α}
    (write_eq : ∀ value : α, Wire.write value = writeInt (toInt value))
    (read_eq : ∀ input, (Wire.read input : Except Flaw (α × Octets)) =
      (readSigned width input).map fun (number, rest) => (ofInt number, rest))
    (narrow : width ≤ 64)
    (fits : ∀ value,
      -(wordCount (width - 1) : Int) ≤ toInt value ∧ toInt value < wordCount (width - 1))
    (ofInt_toInt : ∀ value, ofInt (toInt value) = value) : LawfulWire α where
  write_eq_cons value := by
    obtain ⟨octet, rest, shape, numeral⟩ := writeInt_eq_cons (toInt value)
    exact ⟨octet, rest, (write_eq value).trans shape, opensValue_of_isNumeral numeral⟩
  read_write value rest follows := by
    rw [write_eq, read_eq, readSigned_writeInt narrow (fits value) follows]
    simp only [Except.map, ofInt_toInt]

instance : LawfulWire UInt8 :=
  lawful_unsigned (fun _ => rfl) (fun _ => rfl) (by decide) UInt8.toNat_lt fun _ => UInt8.ofNat_toNat

instance : LawfulWire UInt16 :=
  lawful_unsigned (fun _ => rfl) (fun _ => rfl) (by decide) UInt16.toNat_lt
    fun _ => UInt16.ofNat_toNat

instance : LawfulWire UInt32 :=
  lawful_unsigned (fun _ => rfl) (fun _ => rfl) (by decide) UInt32.toNat_lt
    fun _ => UInt32.ofNat_toNat

instance : LawfulWire UInt64 :=
  lawful_unsigned (fun _ => rfl) (fun _ => rfl) (by decide) UInt64.toNat_lt
    fun _ => UInt64.ofNat_toNat

instance : LawfulWire Int8 :=
  lawful_signed (fun _ => rfl) (fun _ => rfl) (by decide)
    (fun value => ⟨value.le_toInt, value.toInt_lt⟩) fun _ => Int8.ofInt_toInt _

instance : LawfulWire Int16 :=
  lawful_signed (fun _ => rfl) (fun _ => rfl) (by decide)
    (fun value => ⟨value.le_toInt, value.toInt_lt⟩) fun _ => Int16.ofInt_toInt _

instance : LawfulWire Int64 :=
  lawful_signed (fun _ => rfl) (fun _ => rfl) (by decide)
    (fun value => ⟨value.le_toInt, value.toInt_lt⟩) fun _ => Int64.ofInt_toInt _

end Integers

/-! ## Lists -/

/-- Every part but the first has a comma in front of it. -/
theorem commaSeparated_cons (part : Octets) (parts : List Octets) :
    commaSeparated (part :: parts) = part ++ parts.flatMap (comma :: ·) := by
  induction parts generalizing part with
  | nil => simp [commaSeparated]
  | cons next parts ih =>
      rw [commaSeparated, ih]
      · rfl
      · exact nofun

theorem follows_commas {α : Type} [Wire α] (values : List α) (rest : Octets) :
    Follows (values.flatMap (fun value => comma :: Wire.write value) ++ closeBracket :: rest) := by
  cases values with
  | nil => exact follows_cons.mpr (by decide)
  | cons value values => exact follows_cons.mpr (by decide)

theorem length_le_length_flatMap_cons {α : Type} (values : List α) (first : UInt8)
    (write : α → Octets) :
    values.length ≤ (values.flatMap fun value => first :: write value).length := by
  induction values with
  | nil => exact Nat.le_refl _
  | cons value values ih =>
      rw [List.flatMap_cons, List.length_append, List.length_cons, List.length_cons]
      omega

section Lists

variable {α : Type} [Wire α] [LawfulWire α]

/-- Elements behind commas are read up to the closing bracket. -/
theorem readElements_commas (values : List α) (rest : Octets) (steps : Nat)
    (enough : values.length < steps) :
    readElements Wire.read steps false
        (values.flatMap (fun value => comma :: Wire.write value) ++ closeBracket :: rest) =
      .ok (values, closeBracket :: rest) := by
  induction values generalizing steps with
  | nil =>
      obtain ⟨steps, rfl⟩ := Nat.exists_eq_add_of_lt enough
      rfl
  | cons value values ih =>
      cases steps with
      | zero => exact absurd enough (Nat.not_lt_zero _)
      | succ steps =>
          obtain ⟨octet, written, shape, opens⟩ := LawfulWire.write_eq_cons value
          have read := LawfulWire.read_write value (follows_commas values rest)
          have later := ih steps (Nat.lt_of_succ_lt_succ enough)
          rw [shape, List.cons_append] at read
          rw [List.flatMap_cons, List.append_assoc, shape, List.cons_append, List.cons_append,
            readElements, nextElement, skipBlanks_cons _ (by decide)]
          simp only [show comma ≠ closeBracket by decide, if_false, Bool.false_eq_true, if_true,
            skipBlanks_cons _ (isBlank_of_opensValue opens), ne_closeBracket_of_opensValue opens,
            read, later]

/-- Elements are read up to the closing bracket, given as many steps as there are octets. -/
theorem readElements_commaSeparated (values : List α) (rest : Octets) :
    readElements Wire.read
        ((commaSeparated (values.map Wire.write) ++ closeBracket :: rest).length + 1) true
        (commaSeparated (values.map Wire.write) ++ closeBracket :: rest) =
      .ok (values, closeBracket :: rest) := by
  cases values with
  | nil => rfl
  | cons value values =>
      obtain ⟨octet, written, shape, opens⟩ := LawfulWire.write_eq_cons value
      have read := LawfulWire.read_write value (follows_commas values rest)
      have enough := length_le_length_flatMap_cons values comma Wire.write
      rw [shape, List.cons_append] at read
      rw [List.map_cons, commaSeparated_cons, List.flatMap_map, List.append_assoc, shape,
        List.cons_append, readElements, nextElement, skipBlanks_cons _ (isBlank_of_opensValue opens)]
      have later := readElements_commas values rest
        (octet :: (written ++ (values.flatMap (fun value => comma :: Wire.write value) ++
          closeBracket :: rest))).length
        (by simp only [List.length_cons, List.length_append]; omega)
      simp only [ne_closeBracket_of_opensValue opens, if_false, if_true, read, later]

instance : LawfulWire (List α) where
  write_eq_cons values := ⟨openBracket, _, rfl, by decide⟩
  read_write values rest _ := by
    show readList Wire.read (writeList Wire.write values ++ rest) = _
    have elements := readElements_commaSeparated values rest
    rw [writeList, List.cons_append, List.append_assoc, List.singleton_append, readList,
      skipBlanks_cons _ (by decide)]
    simp only [if_true, elements]
    rfl

/-- A member that may lack its value reads the value that it has. -/
theorem read_some (value : α) {rest : Octets} (follows : Follows rest) :
    Wire.read (Wire.write value ++ rest) = .ok (some value, rest) := by
  show readOptional Wire.read (Wire.write value ++ rest) = _
  obtain ⟨octet, written, shape, opens⟩ := LawfulWire.write_eq_cons value
  have read := LawfulWire.read_write value follows
  rw [shape, List.cons_append] at read ⊢
  rw [readOptional, skipBlanks_cons _ (isBlank_of_opensValue opens)]
  simp only [ne_null_of_opensValue opens, if_false, read]
  rfl

/-- A value that is not there is written as `null`, and read from it. -/
theorem read_none (α : Type) [Wire α] (rest : Octets) :
    Wire.read (Wire.write (none : Option α) ++ rest) = .ok ((none : Option α), rest) := by
  show readOptional Wire.read (0x6E :: (ull ++ rest)) = _
  rw [readOptional, skipBlanks_cons _ (by decide)]
  simp only [if_true, readWord_append]
  rfl

end Lists

/-! ## Enumerations -/

/-- Every value of an enumeration is listed, and no other value before it has its name. -/
class LawfulEnumeration (α : Type) [Enumeration α] : Prop where
  named?_name (value : α) : named? (Enumeration.name value) = some value

instance {α : Type} [Enumeration α] [LawfulEnumeration α] : LawfulWire α where
  write_eq_cons value := ⟨quote, _, rfl, by decide⟩
  read_write value rest _ := by
    show readName named? (writeText (Enumeration.name value) ++ rest) = _
    have text := readQuoted_writeText (Enumeration.name value) rest
    have known := LawfulEnumeration.named?_name value
    rw [writeText_append, readName, skipBlanks_cons _ (by decide)]
    simp only [if_true, text, known]

end Json
end PlugAndCharge
