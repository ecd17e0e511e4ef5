import PlugAndCharge.Json.Tagged
import PlugAndCharge.Proofs.Wire

/-!
# Lawful records and unions

A record reads back what it writes if its members do and their names differ.  The members that are
written are read one after the other; each fills its own slot and leaves the others as they are, and
a member that is left out stands for the absent value.
-/

namespace PlugAndCharge
namespace Json

/-! ## Members -/

/-- A member reads back what it writes, and has the value that it takes when it is absent if it
writes nothing. -/
class LawfulMember {α : Type} (member : Member α) : Prop where
  read_write {value : α} {octets : Octets} : member.write? value = some octets →
    ∀ {rest}, Follows rest → member.read (octets ++ rest) = .ok (value, rest)
  absent_eq {value : α} : member.write? value = none → member.absent = some value

section Member

variable {α : Type} [Wire α] [LawfulWire α]

instance (name : String) : LawfulMember (Member.required (α := α) name) where
  read_write written rest follows := by
    cases written
    exact LawfulWire.read_write _ follows
  absent_eq := nofun

instance (name : String) (default : α) : LawfulMember (Member.withDefault name default) where
  read_write written rest follows := by
    cases written
    exact LawfulWire.read_write _ follows
  absent_eq := nofun

instance (name : String) (default : Option α) :
    LawfulMember (Member.withDefault name default) where
  read_write {value} _ written rest follows := by
    cases written
    cases value with
    | none => exact read_none α rest
    | some value => exact read_some value follows
  absent_eq := nofun

instance (name : String) : LawfulMember (Member.optional (α := α) name) where
  read_write {value} _ written rest follows := by
    cases value with
    | none => cases written
    | some value =>
        cases written
        exact read_some value follows
  absent_eq {value} omitted := by
    cases value with
    | none => rfl
    | some value => cases omitted

instance (name : String) : LawfulMember (Member.omissible (α := α) name) where
  read_write {value} _ written rest follows := by
    cases value with
    | none => cases written
    | some value =>
        cases written
        exact read_some value follows
  absent_eq {value} omitted := by
    cases value with
    | none => rfl
    | some value => cases omitted

end Member

/-! ## Filling the slots -/

/-- A member as it is written: its name and its value. -/
structure Entry where
  name : String
  content : Octets

/-- The octets of a written member. -/
def Entry.text (entry : Entry) : Octets :=
  writeText entry.name ++ colon :: entry.content

namespace Members

variable {α γ σ : Type} {members : Members γ σ}

/-- The names of the members. -/
def names {γ σ : Type} : Members γ σ → List String
  | .nil => []
  | .cons member members => member.name :: members.names

/-- The members that are written. -/
def entries {γ σ : Type} : Members γ σ → γ → List Entry
  | .nil, _ => []
  | .cons member members, (value, values) =>
    match member.write? value with
    | some octets => ⟨member.name, octets⟩ :: members.entries values
    | none => members.entries values

theorem written_eq (members : Members γ σ) (values : γ) :
    members.written values = (members.entries values).map Entry.text := by
  induction members with
  | nil => rfl
  | cons member members ih =>
      obtain ⟨value, values⟩ := values
      rw [written, entries, ih]
      cases member.write? value with
      | none => rfl
      | some octets => rfl

/-- The slots of the members that are written. -/
def given {γ σ : Type} : Members γ σ → γ → σ
  | .nil, _ => ()
  | .cons member members, (value, values) =>
    ((member.write? value).map fun _ => value, members.given values)

/-- Reading written members one after the other takes the slots from one state to another, whatever
follows each of them. -/
inductive Fills (members : Members γ σ) : List Entry → σ → σ → Prop where
  | nil (slots : σ) : Fills members [] slots slots
  | cons {entry : Entry} {entries : List Entry} {before between after : σ}
      (fill_eq : ∀ {rest}, Follows rest →
        members.fill entry.name before (colon :: (entry.content ++ rest)) = .ok (between, rest))
      (fills : Fills members entries between after) :
      Fills members (entry :: entries) before after

/-- Members of other names leave the first slot as it is. -/
theorem Fills.behind {member : Member α} {entries : List Entry} {before after : σ}
    (fills : Fills members entries before after)
    (others : ∀ entry ∈ entries, entry.name ≠ member.name) (slot : Option α) :
    Fills (.cons member members) entries (slot, before) (slot, after) := by
  induction fills with
  | nil slots => exact .nil _
  | cons fill_eq _ ih =>
      refine .cons (fun follows => ?_) (ih fun entry isMem => others entry (.tail _ isMem))
      rw [fill.eq_def]
      simp only [if_neg (others _ (.head _)), fill_eq follows]
      rfl

/-- A member whose content can be read fills its slot. -/
theorem fill_of_read {member : Member α} {value : α} {content rest : Octets}
    (read_eq : member.read (content ++ rest) = .ok (value, rest)) (slots : σ) :
    (Members.cons member members).fill member.name (none, slots) (colon :: (content ++ rest)) =
      .ok ((some value, slots), rest) := by
  have colonRead : readColon (colon :: (content ++ rest)) = .ok (content ++ rest) := by
    rw [readColon, skipBlanks_cons _ (by decide)]
    rfl
  rw [fill, if_pos rfl]
  simp only [colonRead, bind, Except.bind, read_eq]
  rfl

/-- Members in their order hold what the slots are to be filled with: the content of each is read as
the value of its slot, whatever follows it, and the slots of those that are missing are empty. -/
inductive Holds : {γ σ : Type} → Members γ σ → List Entry → σ → Prop where
  | nil : Holds .nil [] ()
  | missing {α γ σ : Type} {member : Member α} {members : Members γ σ} {entries : List Entry}
      {slots : σ} (holds : Holds members entries slots) :
      Holds (.cons member members) entries (none, slots)
  | present {α γ σ : Type} {member : Member α} {members : Members γ σ} {entries : List Entry}
      {slots : σ} {content : Octets} {value : α}
      (read_eq : ∀ {rest}, Follows rest → member.read (content ++ rest) = .ok (value, rest))
      (holds : Holds members entries slots) :
      Holds (.cons member members) (⟨member.name, content⟩ :: entries) (some value, slots)

namespace Holds

variable {entries : List Entry} {slots : σ}

/-- A member that is written holds its value. -/
theorem written {member : Member α} [LawfulMember member] {value : α} {content : Octets}
    (isWritten : member.write? value = some content) (holds : Holds members entries slots) :
    Holds (.cons member members) (⟨member.name, content⟩ :: entries) (some value, slots) :=
  .present (LawfulMember.read_write isWritten) holds

theorem name_mem_names (holds : Holds members entries slots) :
    ∀ entry ∈ entries, entry.name ∈ members.names := by
  induction holds with
  | nil => exact fun _ isMem => absurd isMem List.not_mem_nil
  | missing _ ih => exact fun entry isMem => .tail _ (ih entry isMem)
  | present _ _ ih =>
      intro entry isMem
      rcases List.mem_cons.mp isMem with rfl | isMem
      · exact .head _
      · exact .tail _ (ih entry isMem)

/-- The slots are filled with what the members hold. -/
theorem fills (holds : Holds members entries slots) (distinct : members.names.Nodup) :
    Fills members entries members.empty slots := by
  induction holds with
  | nil => exact .nil _
  | @missing _ _ _ member _ _ _ holds ih =>
      obtain ⟨isNew, distinct⟩ := List.nodup_cons.mp distinct
      refine (ih distinct).behind (fun entry isMem same => isNew ?_) none
      exact same ▸ holds.name_mem_names entry isMem
  | @present _ _ _ member members _ _ _ value read_eq holds ih =>
      obtain ⟨isNew, distinct⟩ := List.nodup_cons.mp distinct
      refine .cons (fun follows => fill_of_read (read_eq follows) members.empty)
        ((ih distinct).behind (fun entry isMem same => isNew ?_) (some value))
      exact same ▸ holds.name_mem_names entry isMem

end Holds

/-- Every member is lawful. -/
class Lawful {γ σ : Type} (members : Members γ σ) : Prop where
  holds (values : γ) : Holds members (members.entries values) (members.given values)
  complete_given (values : γ) : members.complete (members.given values) = .ok values

instance : Lawful .nil where
  holds _ := .nil
  complete_given _ := rfl

instance {member : Member α} [LawfulMember member] [rest : Lawful members] :
    Lawful (.cons member members) where
  holds := by
    rintro ⟨value, values⟩
    rw [entries, given]
    cases written : member.write? value with
    | none => exact .missing (rest.holds values)
    | some octets => exact .written written (rest.holds values)
  complete_given := by
    rintro ⟨value, values⟩
    rw [given, complete, rest.complete_given]
    cases written : member.write? value with
    | none =>
        simp only [Option.map_none, Option.none_or, LawfulMember.absent_eq written]
        rfl
    | some octets => rfl

end Members

/-! ## Records -/

/-- The object with these members. -/
def object (entries : List Entry) : Octets :=
  openBrace :: (commaSeparated (entries.map Entry.text) ++ [closeBrace])

theorem Entry.text_append (entry : Entry) (rest : Octets) :
    entry.text ++ rest =
      quote :: ((Octets.ofText entry.name).flatMap escapeOctet ++
        quote :: colon :: (entry.content ++ rest)) := by
  rw [text, List.append_assoc, writeText_append, List.cons_append]

theorem follows_entries (entries : List Entry) (rest : Octets) :
    Follows (entries.flatMap (fun entry => comma :: entry.text) ++ closeBrace :: rest) := by
  cases entries with
  | nil => exact follows_cons.mpr (by decide)
  | cons entry entries => exact follows_cons.mpr (by decide)

namespace Members

variable {γ σ : Type} {members : Members γ σ}

/-- Members behind commas are read up to the closing brace. -/
theorem Fills.readNamed_commas {entries : List Entry} {before after : σ}
    (fills : Fills members entries before after) (rest : Octets) {steps : Nat}
    (enough : entries.length < steps) :
    members.readNamed steps false before
        (entries.flatMap (fun entry => comma :: entry.text) ++ closeBrace :: rest) =
      .ok (after, closeBrace :: rest) := by
  induction fills generalizing steps with
  | nil slots =>
      obtain ⟨steps, rfl⟩ := Nat.exists_eq_add_of_lt enough
      rfl
  | @cons entry entries before between after fill_eq _ ih =>
      cases steps with
      | zero => exact absurd enough (Nat.not_lt_zero _)
      | succ steps =>
          have name := readQuoted_writeText entry.name
          have filled := fill_eq (follows_entries entries rest)
          have later := ih (Nat.lt_of_succ_lt_succ enough)
          rw [List.flatMap_cons, List.append_assoc, List.cons_append, Entry.text_append, readNamed,
            nextName, skipBlanks_cons _ (by decide)]
          simp only [show comma ≠ closeBrace by decide, if_false, Bool.false_eq_true, if_true,
            skipBlanks_cons _ (show isBlank quote = false by decide), name, bind, Except.bind,
            filled, later]

/-- Members are read up to the closing brace, given as many steps as there are octets. -/
theorem Fills.readNamed_commaSeparated {entries : List Entry} {before after : σ}
    (fills : Fills members entries before after) (rest : Octets) :
    members.readNamed
        ((commaSeparated (entries.map Entry.text) ++ closeBrace :: rest).length + 1) true before
        (commaSeparated (entries.map Entry.text) ++ closeBrace :: rest) =
      .ok (after, closeBrace :: rest) := by
  cases fills with
  | nil slots => rfl
  | @cons entry entries _ between _ fill_eq fills =>
      have name := readQuoted_writeText entry.name
      have filled := fill_eq (follows_entries entries rest)
      have enough := length_le_length_flatMap_cons entries comma Entry.text
      rw [List.map_cons, commaSeparated_cons, List.flatMap_map, List.append_assoc,
        Entry.text_append, readNamed, nextName, skipBlanks_cons _ (by decide)]
      simp only [show quote ≠ closeBrace by decide, if_false, if_true, name, bind, Except.bind,
        filled]
      apply fills.readNamed_commas rest
      simp only [List.length_cons, List.length_append]
      omega

/-- A record is read from the members that hold its values. -/
theorem Holds.read {entries : List Entry} {slots : σ} {values : γ}
    (holds : Holds members entries slots) (distinct : members.names.Nodup)
    (complete_eq : members.complete slots = .ok values) (rest : Octets) :
    members.read (object entries ++ rest) = .ok (values, rest) := by
  have named := (holds.fills distinct).readNamed_commaSeparated rest
  rw [object, List.cons_append, List.append_assoc, List.singleton_append, Members.read,
    skipBlanks_cons _ (by decide)]
  simp only [show openBrace ≠ openBracket by decide, if_false, if_true, named, complete_eq, bind,
    Except.bind]
  rfl

theorem write_eq_object (members : Members γ σ) (values : γ) :
    members.write values = object (members.entries values) := by
  rw [write, written_eq, object]

/-- A record reads back what it writes if its members do and their names differ. -/
theorem read_write [lawful : Lawful members] (distinct : members.names.Nodup) (values : γ)
    (rest : Octets) : members.read (members.write values ++ rest) = .ok (values, rest) := by
  rw [write_eq_object]
  exact (lawful.holds values).read distinct (lawful.complete_given values) rest

end Members

/-- The wire form of a structure is lawful if its members are, their names differ and the two
directions between the structure and the values of its members match. -/
theorem lawful_record {α γ σ : Type} [Wire α] {members : Members γ σ} {toValues : α → γ}
    {ofValues : γ × Octets → α × Octets}
    (write_eq : ∀ value : α, Wire.write value = members.write (toValues value))
    (read_eq : ∀ input, (Wire.read input : Except Flaw (α × Octets)) =
      (members.read input).map ofValues)
    [members.Lawful] (distinct : members.names.Nodup)
    (ofValues_toValues : ∀ value rest, ofValues (toValues value, rest) = (value, rest)) :
    LawfulWire α where
  write_eq_cons value := ⟨openBrace, _, write_eq value, by decide⟩
  read_write value rest _ := by
    rw [write_eq, read_eq, members.read_write distinct]
    simp only [Except.map, ofValues_toValues]

/-! ## Unions -/

/-- A union reads back what it writes if the name of a case calls for a reader of its content. -/
theorem readTagged_writeTagged {α : Type} {case? : String → Option (Reader α)} {reader : Reader α}
    {name : String} {content : Octets} {value : α} (known : case? name = some reader)
    (read : ∀ {rest}, Follows rest → reader (content ++ rest) = .ok (value, rest))
    (rest : Octets) :
    readTagged case? (writeTagged name content ++ rest) = .ok (value, rest) := by
  have text := readText_writeText name (colon :: (content ++ closeBrace :: rest))
  have follows : Follows (closeBrace :: rest) := follows_cons.mpr (by decide)
  have contentRead := read follows
  rw [writeTagged, List.cons_append, List.append_assoc, List.cons_append, List.append_assoc,
    List.singleton_append, readTagged, skipBlanks_cons _ (by decide)]
  simp only [show openBrace ≠ quote by decide, if_false, if_true, text, known, bind, Except.bind,
    readColon, skipBlanks_cons _ (show isBlank colon = false by decide), contentRead, readObjectEnd,
    skipBlanks_cons _ (show isBlank closeBrace = false by decide)]
  rfl

end Json
end PlugAndCharge
