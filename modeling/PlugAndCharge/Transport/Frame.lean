import PlugAndCharge.Transport.Error

/-!
# Frames

On a stream each message is preceded by a header of eight octets: the version and its complement,
the type of the payload and the payload's length.  `Frame.receiveAll` reads back what
`Frame.sendAll` writes; a stream that ends between frames is closed, one that ends inside a payload
is broken.
-/

namespace PlugAndCharge
namespace Frame

/-- The version of the frames. -/
def version : UInt8 := 0x01

/-- The payload type of JSON messages. -/
def jsonPayload : UInt16 := 0xA000

/-- The length of a header. -/
def headerLength : Nat := 8

/-- The longest payload. -/
def maxLength : Nat := 65536

/-! ## Headers -/

/-- Writes the header of a payload of a type and length. -/
def writeHeader (payloadType : UInt16) (length : Nat) : Except TransportError Octets :=
  if maxLength < length then .error (.tooLarge length)
  else
    .ok (version :: ~~~version :: (Octets.ofNat 2 payloadType.toNat ++ Octets.ofNat 4 length))

/-- Checks the fields of a header and returns the length of the payload. -/
def checkHeader (first complement : UInt8) (payloadType : UInt16) (length : Nat) :
    Except TransportError Nat :=
  if first ≠ version ∨ complement ≠ ~~~version then
    .error (.invalidHeader (.version first complement))
  else if payloadType ≠ jsonPayload then .error (.invalidHeader (.payloadType payloadType))
  else if maxLength < length then .error (.tooLarge length)
  else .ok length

/-- Reads a header and returns the length of the payload with the octets that follow. -/
def readHeader : Octets → Except TransportError (Nat × Octets)
  | first :: complement :: type₁ :: type₀ :: length₃ :: length₂ :: length₁ :: length₀ :: rest =>
    (checkHeader first complement (UInt16.ofNat (Octets.toNat [type₁, type₀]))
      (Octets.toNat [length₃, length₂, length₁, length₀])).map (·, rest)
  | _ => .error .closed

/-! ## Messages -/

/-- The frame of a message. -/
def send (message : Message) : Except TransportError Octets := do
  let payload := message.encode
  let header ← writeHeader jsonPayload payload.length
  return header ++ payload

/-- Reads one frame and returns its message with the octets that follow. -/
def receive (stream : Octets) : Except TransportError (Message × Octets) := do
  let (length, rest) ← readHeader stream
  if rest.length < length then throw .io
  let message ← (Message.decode (rest.take length)).mapError .envelope
  return (message, rest.drop length)

theorem length_of_readHeader {stream rest : Octets} {length : Nat}
    (success : readHeader stream = .ok (length, rest)) :
    stream.length = headerLength + rest.length := by
  unfold readHeader at success
  split at success
  · rename_i first complement type₁ type₀ length₃ length₂ length₁ length₀ tail
    cases checked : checkHeader first complement (UInt16.ofNat (Octets.toNat [type₁, type₀]))
        (Octets.toNat [length₃, length₂, length₁, length₀]) with
    | error _ => simp [checked, Except.map] at success
    | ok found =>
      simp only [checked, Except.map, Except.ok.injEq, Prod.mk.injEq] at success
      simp [← success.2, headerLength]
      omega
  · cases success

theorem length_of_receive {stream rest : Octets} {message : Message}
    (success : receive stream = .ok (message, rest)) : rest.length < stream.length := by
  unfold receive at success
  cases header : readHeader stream with
  | error _ => simp [header, bind, Except.bind] at success
  | ok found =>
    obtain ⟨length, tail⟩ := found
    have total := length_of_readHeader header
    simp only [header, bind, Except.bind] at success
    split at success
    · cases success
    · cases decoded : (Message.decode (tail.take length)).mapError TransportError.envelope with
      | error _ => simp [decoded] at success
      | ok found =>
        simp only [decoded, pure, Except.pure, Except.ok.injEq, Prod.mk.injEq] at success
        simp [← success.2, total, headerLength]
        omega

/-! ## Streams of messages -/

/-- Sends messages one after the other.  A message that is refused writes nothing. -/
def sendAll : List Message → List (Except TransportError Unit) × Octets
  | [] => ([], [])
  | message :: messages =>
    let (results, stream) := sendAll messages
    match send message with
    | .ok frame => (.ok () :: results, frame ++ stream)
    | .error error => (.error error :: results, stream)

/-- Receives messages up to the first fault, which is returned with them. -/
def receiveAll (stream : Octets) : List Message × TransportError :=
  match _ : receive stream with
  | .error error => ([], error)
  | .ok (message, rest) =>
    let (messages, error) := receiveAll rest
    (message :: messages, error)
termination_by stream.length
decreasing_by exact length_of_receive (by assumption)

end Frame
end PlugAndCharge
