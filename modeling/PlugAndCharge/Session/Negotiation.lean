import PlugAndCharge.Session.Turn

/-!
# Setting up a session

The station gives the session its identifier and offers services; the vehicle selects from them and
settles on a way to pay and an energy transfer mode.
-/

namespace PlugAndCharge

/-- The way to pay.  A contract takes a protected connection and a station that accepts it, and must
not go against what is resumed. -/
def PaymentOption.choose (resumed : Option PaymentOption) (offered : List PaymentOption)
    (isTls : Bool) : PaymentOption :=
  if isTls ∧ .contract ∈ offered ∧ resumed ≠ some .external then .contract else .external

/-- A service without parameters. -/
def SelectedService.plain (serviceId : ServiceId) : SelectedService where
  serviceId := serviceId
  parameterSetId := none

namespace Context

/-- Settles on a way to pay, a mode and the charge service. -/
def settle (context : Context) (paymentOption : PaymentOption) (mode : EnergyTransferMode)
    (serviceId : ServiceId) : Context :=
  { context with paymentOption := some paymentOption, energyMode := some mode }.selectService
    (.plain serviceId)

/-- Selects a service whose details are to be asked for. -/
def selectWithDetails (context : Context) (serviceId : ServiceId) : Context :=
  { context with pendingDetails := serviceId :: context.pendingDetails }.selectService
    (.plain serviceId)

/-- The selection of services and of the way to pay. -/
def paymentSelection (context : Context) : PaymentServiceSelectionReq where
  selectedPaymentOption := context.paymentOption.getD .external
  selectedServices := context.services

end Context

namespace Turn

variable {ω : Type}

/-- Asks for the details of the next service, or else sends the selection. -/
def nextDetailsOrSelection : Turn ω Step := do
  let context ← Turn.context
  match context.pendingDetails with
  | serviceId :: pendingDetails => do
    update fun context => { context with pendingDetails }
    send .serviceDetail (.serviceDetail { serviceId })
  | [] => send .paymentServiceSelection (.paymentServiceSelection context.paymentSelection)

/-- The station has named the session and itself. -/
def sessionSetup (sessionId : SessionId) (content : SessionSetupRes) : Turn ω Step := do
  tryUpdate fun context => context.assignSessionId sessionId
  tryUpdate fun context => context.assignEvseId content.evseId
  send .serviceDiscovery (.serviceDiscovery { serviceScope := none, serviceCategory := none })

/-- The station has offered services.  The choices to resume are used up, even if they do not fit.
-/
def serviceDiscovery (equipment : Equipment ω) (content : ServiceDiscoveryRes) :
    Turn ω Step := do
  match content.chargeService with
  | none => fail (.incompatible .noChargeService)
  | some chargeService => do
    let context ← Turn.context
    update fun context => { context with resume := none }
    let resumed := context.resume.getD Choices.none
    let paymentOption :=
      PaymentOption.choose resumed.paymentOption content.paymentOptions context.isTls
    let ownMode ← ask equipment.vehicle.energyMode
    let mode := resumed.energyMode.getD ownMode
    if mode ∉ chargeService.supportedModes then
      fail (.incompatible (.modeNotOffered mode))
    else do
      update fun context => context.settle paymentOption mode chargeService.serviceId
      let certInstallNeeded ← ask equipment.vehicle.certInstallNeeded
      let certificateService := (content.serviceList.getD []).find? fun service =>
        service.serviceCategory == .contractCertificate
      match certificateService with
      | some service =>
        if context.isTls ∧ paymentOption = .contract ∧ certInstallNeeded then
          update fun context => context.selectWithDetails service.serviceId
      | none => pure ()
      nextDetailsOrSelection

/-- The station has given the details of a service, which the vehicle does not look at. -/
def serviceDetail (_content : ServiceDetailRes) : Turn ω Step :=
  nextDetailsOrSelection

/-- Presents the contract that is stored. -/
def presentContract (credentials : Credentials ω) : Turn ω Step := do
  let contractChain ← useCredentials .loadingContractChain fun state =>
    credentials.chain state .contractLeaf contractSubSlots
  let emaid ← useCredentials .readingEmaid fun state =>
    credentials.commonName state contractChain.certificate
  send .paymentDetails (.paymentDetails { emaid, contractChain })

/-- Asks for a contract certificate. -/
def requestContract (credentials : Credentials ω) : Turn ω Step := do
  let oemProvisioningCert ← useCredentials .loadingProvisioningCertificate fun state =>
    credentials.certificate state .oemLeaf
  let rootCertificateIds ← useCredentials .loadingRootIds credentials.rootIds
  sendSigned credentials .oemLeaf
    ({ id := signedElementId, oemProvisioningCert, rootCertificateIds } :
      CertificateInstallationReq)
    .certificateInstallation .certificateInstallation

/-- The station has accepted the selection. -/
def paymentServiceSelection (equipment : Equipment ω) : Turn ω Step := do
  let context ← Turn.context
  if context.paymentOption ≠ some .contract then
    send .authorization (.authorization { id := none, genChallenge := none })
  else do
    let certInstallNeeded ← ask equipment.vehicle.certInstallNeeded
    if certInstallNeeded then requestContract equipment.credentials
    else presentContract equipment.credentials

end Turn

end PlugAndCharge
