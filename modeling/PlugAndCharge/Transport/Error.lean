import PlugAndCharge.Message.Envelope
import PlugAndCharge.Security.Error

/-!
# What can go wrong between vehicle and station
-/

namespace PlugAndCharge

/-- What is wrong with the header of a frame. -/
inductive HeaderFault where
  /-- The version and the octet that has to be its complement. -/
  | version (first complement : UInt8)
  | payloadType (found : UInt16)
  deriving DecidableEq, Repr

/-- A header fault in words. -/
def HeaderFault.message : HeaderFault → String
  | .version first complement =>
    s!"version 0x{Octets.toHex [first]}/0x{Octets.toHex [complement]}"
  | .payloadType found =>
    s!"unsupported payload type 0x{Octets.toHex (Octets.ofNat 2 found.toNat)}"

/-- A fault of the connection to a station. -/
inductive TransportError where
  | closed
  | io
  | envelope (error : EnvelopeError)
  | invalidHeader (fault : HeaderFault)
  | tooLarge (length : Nat)
  deriving DecidableEq, Repr

namespace TransportError

/-- A fault in words. -/
def message : TransportError → String
  | .closed => "connection closed"
  | .io => s!"IO error: {ioFaultText}"
  | .envelope error => s!"invalid message: {error.message}"
  | .invalidHeader fault => s!"invalid V2GTP header: {fault.message}"
  | .tooLarge length => s!"message too large: {length} bytes"

/-- The name of the kind of a fault. -/
def kind : TransportError → String
  | .closed => "Closed"
  | .io => "Io"
  | .envelope _ => "Envelope"
  | .invalidHeader _ => "InvalidHeader"
  | .tooLarge _ => "TooLarge"

end TransportError

end PlugAndCharge
