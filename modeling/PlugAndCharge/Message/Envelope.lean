import PlugAndCharge.Json.Tagged
import PlugAndCharge.Message.Response

/-!
# Messages

A message is a header with the session's identifier and a body, which is a request or a response of
one of thirteen exchanges.  `Message.encode` is the one form in which a message is sent and
`Message.decode` reads every form in which one may arrive.
-/

namespace PlugAndCharge

/-! ## Exchanges -/

/-- A pair of a request and its response. -/
inductive Exchange where
  | sessionSetup
  | serviceDiscovery
  | serviceDetail
  | paymentServiceSelection
  | certificateInstallation
  | paymentDetails
  | authorization
  | chargeParameterDiscovery
  | powerDelivery
  | chargingStatus
  | currentDemand
  | meteringReceipt
  | sessionStop
  deriving DecidableEq, Repr

namespace Exchange

/-- Every exchange, in the order in which a session first comes to it. -/
def all : List Exchange :=
  [.sessionSetup, .serviceDiscovery, .serviceDetail, .paymentServiceSelection,
   .certificateInstallation, .paymentDetails, .authorization, .chargeParameterDiscovery,
   .powerDelivery, .chargingStatus, .currentDemand, .meteringReceipt, .sessionStop]

/-- The name that both messages of an exchange begin with. -/
def name : Exchange → String
  | .sessionSetup => "SessionSetup"
  | .serviceDiscovery => "ServiceDiscovery"
  | .serviceDetail => "ServiceDetail"
  | .paymentServiceSelection => "PaymentServiceSelection"
  | .certificateInstallation => "CertificateInstallation"
  | .paymentDetails => "PaymentDetails"
  | .authorization => "Authorization"
  | .chargeParameterDiscovery => "ChargeParameterDiscovery"
  | .powerDelivery => "PowerDelivery"
  | .chargingStatus => "ChargingStatus"
  | .currentDemand => "CurrentDemand"
  | .meteringReceipt => "MeteringReceipt"
  | .sessionStop => "SessionStop"

end Exchange

/-- What a message is: the request or the response of an exchange. -/
inductive Kind where
  | request (exchange : Exchange)
  | response (exchange : Exchange)
  deriving DecidableEq, Repr

namespace Kind

/-- Every kind, requests first. -/
def all : List Kind :=
  Exchange.all.map .request ++ Exchange.all.map .response

/-- The name of a message of this kind. -/
def name : Kind → String
  | .request exchange => exchange.name ++ "Req"
  | .response exchange => exchange.name ++ "Res"

end Kind

/-! ## Bodies -/

/-- A request with its content. -/
inductive Request where
  | sessionSetup (content : SessionSetupReq)
  | serviceDiscovery (content : ServiceDiscoveryReq)
  | serviceDetail (content : ServiceDetailReq)
  | paymentServiceSelection (content : PaymentServiceSelectionReq)
  | certificateInstallation (content : CertificateInstallationReq)
  | paymentDetails (content : PaymentDetailsReq)
  | authorization (content : AuthorizationReq)
  | chargeParameterDiscovery (content : ChargeParameterDiscoveryReq)
  | powerDelivery (content : PowerDeliveryReq)
  | chargingStatus (content : ChargingStatusReq)
  | currentDemand (content : CurrentDemandReq)
  | meteringReceipt (content : MeteringReceiptReq)
  | sessionStop (content : SessionStopReq)
  deriving DecidableEq, Repr

/-- A response with its content. -/
inductive Response where
  | sessionSetup (content : SessionSetupRes)
  | serviceDiscovery (content : ServiceDiscoveryRes)
  | serviceDetail (content : ServiceDetailRes)
  | paymentServiceSelection (content : PaymentServiceSelectionRes)
  | certificateInstallation (content : CertificateInstallationRes)
  | paymentDetails (content : PaymentDetailsRes)
  | authorization (content : AuthorizationRes)
  | chargeParameterDiscovery (content : ChargeParameterDiscoveryRes)
  | powerDelivery (content : PowerDeliveryRes)
  | chargingStatus (content : ChargingStatusRes)
  | currentDemand (content : CurrentDemandRes)
  | meteringReceipt (content : MeteringReceiptRes)
  | sessionStop (content : SessionStopRes)
  deriving DecidableEq, Repr

namespace Request

/-- The exchange that a request opens. -/
def exchange : Request → Exchange
  | .sessionSetup _ => .sessionSetup
  | .serviceDiscovery _ => .serviceDiscovery
  | .serviceDetail _ => .serviceDetail
  | .paymentServiceSelection _ => .paymentServiceSelection
  | .certificateInstallation _ => .certificateInstallation
  | .paymentDetails _ => .paymentDetails
  | .authorization _ => .authorization
  | .chargeParameterDiscovery _ => .chargeParameterDiscovery
  | .powerDelivery _ => .powerDelivery
  | .chargingStatus _ => .chargingStatus
  | .currentDemand _ => .currentDemand
  | .meteringReceipt _ => .meteringReceipt
  | .sessionStop _ => .sessionStop

/-- Writes the content of a request. -/
def writeContent : Request → Octets
  | .sessionSetup content => Json.Wire.write content
  | .serviceDiscovery content => Json.Wire.write content
  | .serviceDetail content => Json.Wire.write content
  | .paymentServiceSelection content => Json.Wire.write content
  | .certificateInstallation content => Json.Wire.write content
  | .paymentDetails content => Json.Wire.write content
  | .authorization content => Json.Wire.write content
  | .chargeParameterDiscovery content => Json.Wire.write content
  | .powerDelivery content => Json.Wire.write content
  | .chargingStatus content => Json.Wire.write content
  | .currentDemand content => Json.Wire.write content
  | .meteringReceipt content => Json.Wire.write content
  | .sessionStop content => Json.Wire.write content

/-- Reads the content of the request of an exchange. -/
def readContent : Exchange → Json.Reader Request
  | .sessionSetup, input => (Json.Wire.read input).map fun (content, rest) =>
    (.sessionSetup content, rest)
  | .serviceDiscovery, input => (Json.Wire.read input).map fun (content, rest) =>
    (.serviceDiscovery content, rest)
  | .serviceDetail, input => (Json.Wire.read input).map fun (content, rest) =>
    (.serviceDetail content, rest)
  | .paymentServiceSelection, input => (Json.Wire.read input).map fun (content, rest) =>
    (.paymentServiceSelection content, rest)
  | .certificateInstallation, input => (Json.Wire.read input).map fun (content, rest) =>
    (.certificateInstallation content, rest)
  | .paymentDetails, input => (Json.Wire.read input).map fun (content, rest) =>
    (.paymentDetails content, rest)
  | .authorization, input => (Json.Wire.read input).map fun (content, rest) =>
    (.authorization content, rest)
  | .chargeParameterDiscovery, input => (Json.Wire.read input).map fun (content, rest) =>
    (.chargeParameterDiscovery content, rest)
  | .powerDelivery, input => (Json.Wire.read input).map fun (content, rest) =>
    (.powerDelivery content, rest)
  | .chargingStatus, input => (Json.Wire.read input).map fun (content, rest) =>
    (.chargingStatus content, rest)
  | .currentDemand, input => (Json.Wire.read input).map fun (content, rest) =>
    (.currentDemand content, rest)
  | .meteringReceipt, input => (Json.Wire.read input).map fun (content, rest) =>
    (.meteringReceipt content, rest)
  | .sessionStop, input => (Json.Wire.read input).map fun (content, rest) =>
    (.sessionStop content, rest)

end Request

namespace Response

/-- The exchange that a response closes. -/
def exchange : Response → Exchange
  | .sessionSetup _ => .sessionSetup
  | .serviceDiscovery _ => .serviceDiscovery
  | .serviceDetail _ => .serviceDetail
  | .paymentServiceSelection _ => .paymentServiceSelection
  | .certificateInstallation _ => .certificateInstallation
  | .paymentDetails _ => .paymentDetails
  | .authorization _ => .authorization
  | .chargeParameterDiscovery _ => .chargeParameterDiscovery
  | .powerDelivery _ => .powerDelivery
  | .chargingStatus _ => .chargingStatus
  | .currentDemand _ => .currentDemand
  | .meteringReceipt _ => .meteringReceipt
  | .sessionStop _ => .sessionStop

/-- The response code. -/
def code : Response → ResponseCode
  | .sessionSetup content => content.responseCode
  | .serviceDiscovery content => content.responseCode
  | .serviceDetail content => content.responseCode
  | .paymentServiceSelection content => content.responseCode
  | .certificateInstallation content => content.responseCode
  | .paymentDetails content => content.responseCode
  | .authorization content => content.responseCode
  | .chargeParameterDiscovery content => content.responseCode
  | .powerDelivery content => content.responseCode
  | .chargingStatus content => content.responseCode
  | .currentDemand content => content.responseCode
  | .meteringReceipt content => content.responseCode
  | .sessionStop content => content.responseCode

/-- Writes the content of a response. -/
def writeContent : Response → Octets
  | .sessionSetup content => Json.Wire.write content
  | .serviceDiscovery content => Json.Wire.write content
  | .serviceDetail content => Json.Wire.write content
  | .paymentServiceSelection content => Json.Wire.write content
  | .certificateInstallation content => Json.Wire.write content
  | .paymentDetails content => Json.Wire.write content
  | .authorization content => Json.Wire.write content
  | .chargeParameterDiscovery content => Json.Wire.write content
  | .powerDelivery content => Json.Wire.write content
  | .chargingStatus content => Json.Wire.write content
  | .currentDemand content => Json.Wire.write content
  | .meteringReceipt content => Json.Wire.write content
  | .sessionStop content => Json.Wire.write content

/-- Reads the content of the response of an exchange. -/
def readContent : Exchange → Json.Reader Response
  | .sessionSetup, input => (Json.Wire.read input).map fun (content, rest) =>
    (.sessionSetup content, rest)
  | .serviceDiscovery, input => (Json.Wire.read input).map fun (content, rest) =>
    (.serviceDiscovery content, rest)
  | .serviceDetail, input => (Json.Wire.read input).map fun (content, rest) =>
    (.serviceDetail content, rest)
  | .paymentServiceSelection, input => (Json.Wire.read input).map fun (content, rest) =>
    (.paymentServiceSelection content, rest)
  | .certificateInstallation, input => (Json.Wire.read input).map fun (content, rest) =>
    (.certificateInstallation content, rest)
  | .paymentDetails, input => (Json.Wire.read input).map fun (content, rest) =>
    (.paymentDetails content, rest)
  | .authorization, input => (Json.Wire.read input).map fun (content, rest) =>
    (.authorization content, rest)
  | .chargeParameterDiscovery, input => (Json.Wire.read input).map fun (content, rest) =>
    (.chargeParameterDiscovery content, rest)
  | .powerDelivery, input => (Json.Wire.read input).map fun (content, rest) =>
    (.powerDelivery content, rest)
  | .chargingStatus, input => (Json.Wire.read input).map fun (content, rest) =>
    (.chargingStatus content, rest)
  | .currentDemand, input => (Json.Wire.read input).map fun (content, rest) =>
    (.currentDemand content, rest)
  | .meteringReceipt, input => (Json.Wire.read input).map fun (content, rest) =>
    (.meteringReceipt content, rest)
  | .sessionStop, input => (Json.Wire.read input).map fun (content, rest) =>
    (.sessionStop content, rest)

end Response

/-- The body of a message. -/
inductive Body where
  | request (content : Request)
  | response (content : Response)
  deriving DecidableEq, Repr

namespace Body

/-- What the message is. -/
def kind : Body → Kind
  | .request content => .request content.exchange
  | .response content => .response content.exchange

/-- The response code, if the body is a response. -/
def code? : Body → Option ResponseCode
  | .request _ => none
  | .response content => some content.code

/-- Writes the content of a body. -/
def writeContent : Body → Octets
  | .request content => content.writeContent
  | .response content => content.writeContent

/-- Reads the content of a body of a kind. -/
def readContent : Kind → Json.Reader Body
  | .request exchange, input =>
    (Request.readContent exchange input).map fun (content, rest) => (.request content, rest)
  | .response exchange, input =>
    (Response.readContent exchange input).map fun (content, rest) => (.response content, rest)

/-- A body is an object whose only member is named after the kind and holds the content. -/
instance : Json.Wire Body where
  write body := Json.writeTagged body.kind.name body.writeContent
  read := Json.readTagged fun name =>
    (Kind.all.find? fun kind => kind.name == name).map readContent

end Body

/-! ## Envelopes -/

/-- The header of a message. -/
structure Header where
  sessionId : SessionId
  signature : Option Signature
  deriving DecidableEq, Repr

instance : Json.Wire Header :=
  Json.recordWire
    (.cons (.required "SessionID") <| .cons (.omissible "Signature") .nil)
    (fun h => (h.sessionId, h.signature, ()))
    (fun (sessionId, signature, _) => { sessionId, signature })

/-- A message. -/
structure Message where
  header : Header
  body : Body
  deriving DecidableEq, Repr

instance : Json.Wire Message :=
  Json.recordWire
    (.cons (.required "Header") <| .cons (.required "Body") .nil)
    (fun m => (m.header, m.body, ()))
    (fun (header, body, _) => { header, body })

/-- Why octets are not a message. -/
inductive EnvelopeError where
  /-- There are no octets. -/
  | empty
  /-- The octets are not the JSON text of a message. -/
  | json (flaw : Json.Flaw)
  deriving DecidableEq, Repr

/-- A fault in words. -/
def EnvelopeError.message : EnvelopeError → String
  | .empty => "empty message"
  | .json flaw => "JSON error: " ++ flaw.message

/-- The name of the kind of a fault. -/
def EnvelopeError.kind : EnvelopeError → String
  | .empty => "Empty"
  | .json _ => "Json"

namespace Message

/-- The kind of a message. -/
def kind (message : Message) : Kind := message.body.kind

/-- The octets in which a message is sent. -/
def encode (message : Message) : Octets := Json.Wire.write message

/-- The message that octets hold. -/
def decode (octets : Octets) : Except EnvelopeError Message :=
  if octets = [] then .error .empty else (Json.decode octets).mapError .json

end Message

end PlugAndCharge
