import PlugAndCharge.Proofs.Turn
import PlugAndCharge.Session.Simulation
import PlugAndCharge.Text.Column
import PlugAndCharge.Transport.Frame
import PlugAndCharge.Proofs.Reaction
import PlugAndCharge.Proofs.Course
import PlugAndCharge.Proofs.Fit
import PlugAndCharge.Proofs.Passage
import PlugAndCharge.Proofs.Change
import PlugAndCharge.Proofs.Frame
import PlugAndCharge.Proofs.Scenario
import PlugAndCharge.Proofs.Order
import PlugAndCharge.Proofs.Stop
import PlugAndCharge.Proofs.Budget
import PlugAndCharge.Proofs.Coverage
import PlugAndCharge.Proofs.Delivery
import PlugAndCharge.Proofs.Numeral
import PlugAndCharge.Proofs.Wire
import PlugAndCharge.Proofs.Record
import PlugAndCharge.Proofs.RoundTrip
import PlugAndCharge.Proofs.Onboard
import PlugAndCharge.Proofs.Unprotected
import PlugAndCharge.Proofs.Parameters
import PlugAndCharge.Proofs.Part
import PlugAndCharge.Proofs.Asking
import PlugAndCharge.Proofs.Installation
import PlugAndCharge.Proofs.BigEndian
import PlugAndCharge.Proofs.Framing
import PlugAndCharge.Proofs.LeftOver
import PlugAndCharge.Proofs.Sending
import PlugAndCharge.Proofs.Signing
import PlugAndCharge.Proofs.Awaiting
import PlugAndCharge.Proofs.Succession
import PlugAndCharge.Proofs.Identity
import PlugAndCharge.Proofs.Leave
import PlugAndCharge.Proofs.Pem
import PlugAndCharge.Proofs.Der
import PlugAndCharge.Proofs.KeyFile
import PlugAndCharge.Proofs.Storage
import PlugAndCharge.Proofs.Interruption
import PlugAndCharge.Proofs.Ending
import PlugAndCharge.Proofs.Schedule
import PlugAndCharge.Proofs.Offer
import PlugAndCharge.Proofs.Utf8
import PlugAndCharge.Proofs.TextForm
import PlugAndCharge.Proofs.ConfigurationFile
import PlugAndCharge.Proofs.Resumption
import PlugAndCharge.Proofs.Refusal
import PlugAndCharge.Proofs.Coherence
import PlugAndCharge.Proofs.Renewal
import PlugAndCharge.Proofs.Pairing
import PlugAndCharge.Proofs.Issuing
import PlugAndCharge.Proofs.Acceptance
import PlugAndCharge.Proofs.Cipher
import PlugAndCharge.Proofs.KeyTransport
import PlugAndCharge.Proofs.Selection
import PlugAndCharge.Proofs.Binding
import PlugAndCharge.Proofs.PendingDetails
import PlugAndCharge.Proofs.Slots
import PlugAndCharge.Proofs.Omission
import PlugAndCharge.Proofs.Defaults
import PlugAndCharge.Proofs.FrameHeader
