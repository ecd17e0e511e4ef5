import PlugAndCharge.Session.Charging
import PlugAndCharge.Session.Contract
import PlugAndCharge.Session.Negotiation

/-!
# The course of a session

Each response leads to the next request or to the end.  A response is looked at only once it has
been found to be the awaited one, to belong to the session and to be no failure.
-/

namespace PlugAndCharge
namespace Turn

variable {ω : Type}

/-- What follows from a response that has been checked. -/
def respond (equipment : Equipment ω) (now : Milliseconds) (header : Header) :
    Response → Turn ω Outcome
  | .sessionSetup content => .next <$> sessionSetup header.sessionId content
  | .serviceDiscovery content => .next <$> serviceDiscovery equipment content
  | .serviceDetail content => .next <$> serviceDetail content
  | .paymentServiceSelection _ => .next <$> paymentServiceSelection equipment
  | .certificateInstallation content =>
    .next <$> certificateInstallation equipment header.signature content
  | .paymentDetails content => .next <$> paymentDetails equipment content
  | .authorization content => .next <$> authorization equipment now content
  | .chargeParameterDiscovery content =>
    .next <$> chargeParameterDiscovery equipment now content
  | .powerDelivery _ => .next <$> powerDelivery equipment
  | .chargingStatus content => .next <$> chargingStatus equipment content
  | .currentDemand content => .next <$> currentDemand equipment content
  | .meteringReceipt content => .next <$> meteringReceipt equipment content
  | .sessionStop _ => .terminated <$> sessionStop

/-- What follows from a message while the response of an exchange is awaited. -/
def process (equipment : Equipment ω) (now : Milliseconds) (awaited : Exchange)
    (message : Message) : Turn ω Outcome := do
  let response ← consult fun context => context.validate awaited message
  respond equipment now message.header response

end Turn
end PlugAndCharge
