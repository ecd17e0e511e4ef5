import PlugAndCharge.Transport.Frame
import PlugAndCharge.Proofs.BigEndian
import PlugAndCharge.Proofs.RoundTrip

/-!
# Messages on a stream

The stream that messages leave behind is the concatenation of their frames, and the messages are
read back from it one frame at a time: a frame is read in front of whatever follows, and exactly the
octets that its header announces are taken.  A stream that is cut inside a frame therefore still
delivers every frame before the cut.
-/

namespace PlugAndCharge
namespace Frame

/-- A message can be sent when its payload is not too long. -/
def fits (message : Message) : Bool :=
  message.encode.length ≤ maxLength

/-- The header of a JSON payload of a length. -/
def header (length : Nat) : Octets :=
  version :: ~~~version :: (Octets.ofNat 2 jsonPayload.toNat ++ Octets.ofNat 4 length)

/-- The fields of a header of eight octets, whatever they hold. -/
structure HeaderFields where
  first : UInt8
  complement : UInt8
  payloadType : UInt16
  length : UInt32
  deriving DecidableEq, Repr

/-- The fields of a header, one after the other. -/
def HeaderFields.octets (fields : HeaderFields) : Octets :=
  fields.first :: fields.complement ::
    (Octets.ofNat 2 fields.payloadType.toNat ++ Octets.ofNat 4 fields.length.toNat)

/-- The fields of the header of a JSON payload of a length. -/
def HeaderFields.json (length : UInt32) : HeaderFields :=
  ⟨version, ~~~version, jsonPayload, length⟩

/-- The header and the payload of a message. -/
def write (message : Message) : Octets :=
  header message.encode.length ++ message.encode

/-- The length of the payload that the header at the start of a stream announces. -/
def announced (stream : Octets) : Nat :=
  Octets.toNat ((stream.drop 4).take 4)

/-! ## Headers -/

@[simp] theorem length_header (length : Nat) : (header length).length = headerLength := by
  simp [header, Octets.length_ofNat, headerLength]

@[simp] theorem length_write (message : Message) :
    (write message).length = headerLength + message.encode.length := by
  simp [write]

theorem checkHeader_eq_ok {first complement : UInt8} {payloadType : UInt16} {length found : Nat} :
    checkHeader first complement payloadType length = .ok found ↔
      first = version ∧ complement = ~~~version ∧ payloadType = jsonPayload ∧
        length ≤ maxLength ∧ found = length := by
  unfold checkHeader
  split_ifs with versions types long
  · simp only [false_iff]
    exact fun ⟨first, complement, _⟩ => versions.elim (· first) (· complement)
  · simp [types]
  · simp only [false_iff]
    omega
  · obtain ⟨rfl, rfl⟩ := not_or.mp versions |>.imp not_not.mp not_not.mp
    simp only [not_not] at types
    simp [types, not_lt.mp long, eq_comm]

/-- Reading a header checks its fields, in front of whatever follows it. -/
theorem readHeader_octets (fields : HeaderFields) (rest : Octets) :
    readHeader (fields.octets ++ rest) =
      (checkHeader fields.first fields.complement fields.payloadType fields.length.toNat).map
        (·, rest) := by
  obtain ⟨type₁, type₀, typeDigits⟩ :
      ∃ a b, Octets.ofNat 2 fields.payloadType.toNat = [a, b] := ⟨_, _, rfl⟩
  obtain ⟨length₃, length₂, length₁, length₀, lengthDigits⟩ :
      ∃ a b c d, Octets.ofNat 4 fields.length.toNat = [a, b, c, d] := ⟨_, _, _, _, rfl⟩
  have type : UInt16.ofNat (Octets.toNat [type₁, type₀]) = fields.payloadType := by
    rw [← typeDigits, Octets.toNat_ofNat_of_lt fields.payloadType.toNat_lt, UInt16.ofNat_toNat]
  have length : Octets.toNat [length₃, length₂, length₁, length₀] = fields.length.toNat := by
    rw [← lengthDigits, Octets.toNat_ofNat_of_lt fields.length.toNat_lt]
  rw [HeaderFields.octets, typeDigits, lengthDigits]
  change (checkHeader fields.first fields.complement (UInt16.ofNat (Octets.toNat [type₁, type₀]))
    (Octets.toNat [length₃, length₂, length₁, length₀])).map (·, rest) = _
  rw [type, length]

/-- The length of a payload that is not too long fits its field. -/
theorem exists_lengthField {length : Nat} (short : length ≤ maxLength) :
    ∃ field : UInt32, field.toNat = length := by
  unfold maxLength at short
  exact ⟨UInt32.ofNat length, UInt32.toNat_ofNat_of_lt' (by change length < 2 ^ 32; omega)⟩

theorem octets_json (length : UInt32) : (HeaderFields.json length).octets = header length.toNat :=
  rfl

/-- A header is read back in front of whatever follows it. -/
theorem readHeader_header {length : Nat} (short : length ≤ maxLength) (rest : Octets) :
    readHeader (header length ++ rest) = .ok (length, rest) := by
  obtain ⟨field, rfl⟩ := exists_lengthField short
  have checked : checkHeader version (~~~version) jsonPayload field.toNat = .ok field.toNat :=
    checkHeader_eq_ok.mpr ⟨rfl, rfl, rfl, short, rfl⟩
  rw [← octets_json, readHeader_octets]
  change (checkHeader version (~~~version) jsonPayload field.toNat).map (·, rest) = _
  rw [checked]
  rfl

/-- What is left of a stream after a header starts at its ninth octet, and the length is the one
that the header announces. -/
theorem readHeader_eq_ok {stream rest : Octets} {length : Nat}
    (success : readHeader stream = .ok (length, rest)) :
    length = announced stream ∧ rest = stream.drop headerLength := by
  unfold readHeader at success
  split at success
  · rename_i first complement type₁ type₀ length₃ length₂ length₁ length₀ tail
    cases checked : checkHeader first complement (UInt16.ofNat (Octets.toNat [type₁, type₀]))
        (Octets.toNat [length₃, length₂, length₁, length₀]) with
    | error _ => simp [checked, Except.map] at success
    | ok found =>
      obtain ⟨-, -, -, -, rfl⟩ := checkHeader_eq_ok.mp checked
      simp only [checked, Except.map, Except.ok.injEq, Prod.mk.injEq] at success
      exact ⟨success.1.symm, success.2.symm⟩
  · cases success

theorem readHeader_of_short {stream : Octets} (short : stream.length < headerLength) :
    readHeader stream = .error .closed := by
  unfold readHeader
  split
  · simp [headerLength] at short
    omega
  · rfl

/-! ## One frame -/

theorem send_eq (message : Message) :
    send message =
      if maxLength < message.encode.length then .error (.tooLarge message.encode.length)
      else .ok (write message) := by
  by_cases long : maxLength < message.encode.length
  · simp only [send, writeHeader, if_pos long]
    rfl
  · simp only [send, writeHeader, if_neg long]
    rfl

/-- A frame is read back in front of whatever follows it. -/
theorem receive_write {message : Message} (accepted : fits message) (rest : Octets) :
    receive (write message ++ rest) = .ok (message, rest) := by
  have short : message.encode.length ≤ maxLength := by simpa [fits] using accepted
  have read : readHeader (write message ++ rest) =
      .ok (message.encode.length, message.encode ++ rest) := by
    rw [write, List.append_assoc, readHeader_header short]
  have long : ¬(message.encode ++ rest).length < message.encode.length := by simp
  simp only [receive, read, bind, Except.bind, if_neg long, List.take_left, List.drop_left,
    Message.decode_encode, Except.mapError]
  rfl

/-- What a successful reading takes from a stream. -/
theorem receive_eq_ok {stream rest : Octets} {message : Message}
    (success : receive stream = .ok (message, rest)) :
    headerLength + announced stream ≤ stream.length ∧
      rest = stream.drop (headerLength + announced stream) ∧
      Message.decode ((stream.drop headerLength).take (announced stream)) = .ok message := by
  unfold receive at success
  cases header : readHeader stream with
  | error _ => simp [header, bind, Except.bind] at success
  | ok found =>
    obtain ⟨length, tail⟩ := found
    have total := length_of_readHeader header
    obtain ⟨rfl, rfl⟩ := readHeader_eq_ok header
    simp only [header, bind, Except.bind] at success
    split at success
    · cases success
    · rename_i enough
      split at success
      · cases success
      · rename_i decoded mapped
        simp only [pure, Except.pure, Except.ok.injEq, Prod.mk.injEq] at success
        refine ⟨by omega, by rw [← success.2, List.drop_drop], ?_⟩
        rw [← success.1]
        cases read : Message.decode ((stream.drop headerLength).take (announced stream)) with
        | error _ => simp [read, Except.mapError] at mapped
        | ok message => simpa [read, Except.mapError] using mapped

/-- A frame that is cut short is not read: the stream is closed inside the header and broken inside
the payload. -/
theorem receive_take_write {message : Message} (accepted : fits message) {cut : Nat}
    (inside : cut < (write message).length) :
    receive ((write message).take cut) =
      .error (if cut < headerLength then .closed else .io) := by
  have short : message.encode.length ≤ maxLength := by simpa [fits] using accepted
  rw [length_write] at inside
  split_ifs with early
  · have tooShort : ((write message).take cut).length < headerLength := by simp; omega
    simp [receive, readHeader_of_short tooShort, bind, Except.bind]
  · have read : readHeader ((write message).take cut) =
        .ok (message.encode.length, message.encode.take (cut - headerLength)) := by
      have whole : (header message.encode.length).take cut = header message.encode.length :=
        List.take_of_length_le (by simp; omega)
      rw [write, List.take_append, whole, length_header, readHeader_header short]
    have broken : (message.encode.take (cut - headerLength)).length < message.encode.length := by
      simp; omega
    simp only [receive, read, bind, Except.bind, if_pos broken]
    rfl

/-! ## Streams of frames -/

theorem receiveAll_of_error {stream : Octets} {error : TransportError}
    (failure : receive stream = .error error) : receiveAll stream = ([], error) := by
  rw [receiveAll]
  split <;> simp_all

theorem receiveAll_of_ok {stream rest : Octets} {message : Message}
    (success : receive stream = .ok (message, rest)) :
    receiveAll stream = (message :: (receiveAll rest).1, (receiveAll rest).2) := by
  rw [receiveAll]
  split <;> simp_all

theorem receiveAll_nil : receiveAll [] = ([], .closed) :=
  receiveAll_of_error rfl

/-- Frames are read back in front of whatever follows them. -/
theorem receiveAll_flatMap_write {messages : List Message} (accepted : ∀ m ∈ messages, fits m)
    (rest : Octets) :
    receiveAll (messages.flatMap write ++ rest) =
      (messages ++ (receiveAll rest).1, (receiveAll rest).2) := by
  induction messages with
  | nil => rfl
  | cons message messages ih =>
    have read := receive_write (accepted message List.mem_cons_self)
      (messages.flatMap write ++ rest)
    have later := ih fun m member => accepted m (List.mem_cons_of_mem message member)
    rw [List.flatMap_cons, List.append_assoc, receiveAll_of_ok read, later]
    rfl

/-- Each message is accepted or refused on its own, and the stream is made of the frames of those
accepted. -/
theorem sendAll_eq (messages : List Message) :
    sendAll messages =
      (messages.map fun message =>
          if maxLength < message.encode.length then .error (.tooLarge message.encode.length)
          else .ok (),
        (messages.filter fits).flatMap write) := by
  induction messages with
  | nil => rfl
  | cons message messages ih =>
    rw [sendAll, ih, send_eq]
    by_cases long : maxLength < message.encode.length
    · have refused : fits message = false := by simpa [fits] using long
      simp [long, refused]
    · have accepted : fits message = true := by simpa [fits] using long
      simp [long, accepted]

/-- The frames before a cut are read, and the cut frame is not. -/
theorem receiveAll_take {before after : List Message} {message : Message}
    (accepted : ∀ m ∈ before ++ message :: after, fits m) {cut : Nat}
    (inside : cut < (write message).length) :
    receiveAll (((before ++ message :: after).flatMap write).take
        ((before.flatMap write).length + cut)) =
      (before, if cut < headerLength then .closed else .io) := by
  have cutFrame : ((before ++ message :: after).flatMap write).take
        ((before.flatMap write).length + cut) =
      before.flatMap write ++ (write message).take cut := by
    rw [List.flatMap_append, List.take_length_add_append, List.flatMap_cons,
      List.take_append_of_le_length inside.le]
  have failure := receive_take_write (accepted message (by simp)) inside
  rw [cutFrame, receiveAll_flatMap_write fun m member => accepted m (by simp [member]),
    receiveAll_of_error failure, List.append_nil]

/-- Framing loses nothing and stays in step.  The stream holds one frame, a header of eight octets
and the payload, for each message that is not too long, in order; a longer one is refused and adds
nothing.  Reading such a stream returns these messages and finds it closed at the end; reading it
up to a cut returns those whose frames are whole.  From any stream, a successful reading takes the
header and as many octets as the header announces. -/
theorem framing_lossless (messages : List Message) :
    (sendAll messages).1 =
        messages.map (fun message =>
          if maxLength < message.encode.length then .error (.tooLarge message.encode.length)
          else .ok ()) ∧
      (sendAll messages).2 = (messages.filter fits).flatMap write ∧
      (∀ message, write message = header message.encode.length ++ message.encode ∧
        (header message.encode.length).length = headerLength) ∧
      receiveAll (sendAll messages).2 = (messages.filter fits, .closed) ∧
      (∀ before message after, messages.filter fits = before ++ message :: after →
        ∀ cut < (write message).length,
          receiveAll ((sendAll messages).2.take ((before.flatMap write).length + cut)) =
            (before, if cut < headerLength then .closed else .io)) ∧
      ∀ stream message rest, receive stream = .ok (message, rest) →
        headerLength + announced stream ≤ stream.length ∧
          rest = stream.drop (headerLength + announced stream) ∧
          Message.decode ((stream.drop headerLength).take (announced stream)) = .ok message := by
  have accepted : ∀ m ∈ messages.filter fits, fits m :=
    fun m member => (List.mem_filter.mp member).2
  rw [sendAll_eq]
  refine ⟨rfl, rfl, fun message => ⟨rfl, length_header _⟩, ?_, ?_, fun _ _ _ => receive_eq_ok⟩
  · have read := receiveAll_flatMap_write accepted []
    rwa [receiveAll_nil, List.append_nil, List.append_nil] at read
  · intro before message after split cut inside
    rw [split] at accepted ⊢
    exact receiveAll_take accepted inside

end Frame
end PlugAndCharge
