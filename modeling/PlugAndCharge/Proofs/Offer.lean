import PlugAndCharge.Proofs.Parameters
import PlugAndCharge.Proofs.Succession

/-!
# What is made of an offer

The second request of a session asks for the services on offer.  What the vehicle settles on follows
from the offer and from what the session was begun with: the way to pay, the mode, the services that
it selects, and the one whose details it asks for before it selects.
-/

namespace PlugAndCharge

variable {ω : Type}

/-- The services on offer that provide contract certificates. -/
def ServiceDiscoveryRes.certificateServices (content : ServiceDiscoveryRes) : List Service :=
  (content.serviceList.getD []).filter fun service =>
    service.serviceCategory == .contractCertificate

/-- Of several services that provide contract certificates the vehicle takes the first. -/
theorem Context.certificateService?_eq {context : Context} {content : ServiceDiscoveryRes}
    (isTls : context.isTls = true) (isContract : context.optionFrom content = .contract) :
    context.certificateService? content true = content.certificateServices.head? := by
  rw [certificateService?, if_pos ⟨isTls, isContract, rfl⟩,
    ServiceDiscoveryRes.certificateServices, List.head?_filter]

/-- A contract is chosen only over a protected connection, and only if it is on offer. -/
theorem PaymentOption.choose_eq_contract {resumed : Option PaymentOption}
    {offered : List PaymentOption} {isTls : Bool} :
    choose resumed offered isTls = .contract ↔
      isTls = true ∧ .contract ∈ offered ∧ resumed ≠ some .external := by
  unfold choose
  split
  next holds => exact iff_of_true rfl holds
  next fails => exact iff_of_false nofun fails

theorem Context.mem_withService (services : List SelectedService) (serviceId : ServiceId) :
    ∃ selected ∈ withService services (.plain serviceId), selected.serviceId = serviceId := by
  unfold withService
  split
  next isSelected =>
    obtain ⟨selected, isMember, same⟩ := List.any_eq_true.mp isSelected
    exact ⟨selected, isMember, beq_iff_eq.mp same⟩
  next => exact ⟨.plain serviceId, by simp, rfl⟩

/-- The context after an offer, if nothing has been selected before: the choices to resume are used
up, and the session is settled. -/
def Context.afterOffer (context : Context) (content : ServiceDiscoveryRes)
    (ownMode : EnergyTransferMode) (certInstallNeeded : Bool) (chargeService : ChargeService) :
    Context :=
  { context with
    resume := none
    paymentOption := some (context.optionFrom content)
    energyMode := some (context.requiredMode ownMode)
    services :=
      match context.certificateService? content certInstallNeeded with
      | some service => withService [.plain chargeService.serviceId] (.plain service.serviceId)
      | none => [.plain chargeService.serviceId]
    pendingDetails := [] }

namespace Context

variable {context : Context} {content : ServiceDiscoveryRes} {certInstallNeeded : Bool}
  {chargeService : ChargeService}

theorem exists_selected_afterOffer (ownMode : EnergyTransferMode) {service : Service}
    (found : context.certificateService? content certInstallNeeded = some service) :
    ∃ selected ∈ (context.afterOffer content ownMode certInstallNeeded chargeService).services,
      selected.serviceId = service.serviceId := by
  simp only [afterOffer, found]
  exact mem_withService _ _

theorem services_afterOffer (ownMode : EnergyTransferMode)
    (notFound : context.certificateService? content certInstallNeeded = none) :
    (context.afterOffer content ownMode certInstallNeeded chargeService).services =
      [.plain chargeService.serviceId] := by
  simp only [afterOffer, notFound]

end Context

/-! ## Turns -/

namespace Turn

variable {equipment : Equipment ω} {session after : Session ω} {next : Step}

/-- With nothing selected before, an offer is answered with the selection of the charge service, or
the details of the service for contract certificates are asked for first. -/
theorem serviceDiscovery_of_nothing_selected {content : ServiceDiscoveryRes}
    (noneSelected : session.context.services = []) (nonePending : session.context.pendingDetails = [])
    (responded : serviceDiscovery equipment content session = .ok next after) :
    ∃ chargeService, content.chargeService = some chargeService ∧
      session.context.requiredMode (equipment.vehicle.energyMode session.onboard) ∈
        chargeService.supportedModes ∧
      after = { session with
        context := session.context.afterOffer content
          (equipment.vehicle.energyMode session.onboard)
          (equipment.vehicle.certInstallNeeded session.onboard) chargeService } ∧
      next.request =
        match session.context.certificateService? content
            (equipment.vehicle.certInstallNeeded session.onboard) with
        | some service => .serviceDetail { serviceId := service.serviceId }
        | none => .paymentServiceSelection after.context.paymentSelection := by
  obtain ⟨chargeService, offered, isOffered, responded⟩ := serviceDiscovery_eq_ok.mp responded
  refine ⟨chargeService, offered, isOffered, ?_⟩
  rw [Context.takeOffer_eq] at responded
  unfold Context.afterOffer
  cases found : session.context.certificateService? content
      (equipment.vehicle.certInstallNeeded session.onboard) with
  | none =>
      rw [found, noneSelected, nonePending] at responded
      obtain ⟨-, rfl, rfl⟩ | ⟨_, _, pending, -⟩ := nextDetailsOrSelection_eq_ok.mp responded
      · exact ⟨rfl, rfl⟩
      · cases pending
  | some service =>
      rw [found, noneSelected, nonePending] at responded
      obtain ⟨pending, -⟩ | ⟨_, _, pending, rfl, rfl⟩ := nextDetailsOrSelection_eq_ok.mp responded
      · cases pending
      · obtain ⟨rfl, rfl⟩ := List.cons.inj pending
        exact ⟨rfl, rfl⟩

/-- Once the details that were pending have come, the selection is sent. -/
theorem serviceDetail_of_nothing_pending {content : ServiceDetailRes}
    (nonePending : session.context.pendingDetails = [])
    (responded : serviceDetail content session = .ok next after) :
    after = session ∧ next.request = .paymentServiceSelection session.context.paymentSelection := by
  obtain ⟨-, rfl, rfl⟩ | ⟨_, _, pending, -⟩ := nextDetailsOrSelection_eq_ok.mp responded
  · exact ⟨rfl, rfl⟩
  · rw [nonePending] at pending
    cases pending

end Turn

/-! ## Passages -/

namespace Exchange

variable {first : Exchange}

theorem precedes_serviceDetail (follows : .serviceDetail ∈ first.followers) :
    first = .serviceDiscovery ∨ first = .serviceDetail := by
  revert follows
  cases first <;> decide

theorem precedes_paymentServiceSelection (follows : .paymentServiceSelection ∈ first.followers) :
    first = .serviceDiscovery ∨ first = .serviceDetail := by
  revert follows
  cases first <;> decide

end Exchange

/-- What an offer is taken with: the way to pay, the mode, the services that are selected, and the
ones whose details are to be asked for. -/
def Context.negotiated (context : Context) :
    Option PaymentOption × Option EnergyTransferMode × List SelectedService × List ServiceId :=
  (context.paymentOption, context.energyMode, context.services, context.pendingDetails)

namespace Passage

/-- An offer that can be taken: it has a charge service, with the mode that the vehicle requires. -/
structure Takes (equipment : Equipment ω) (offering : Passage ω) (content : ServiceDiscoveryRes)
    (chargeService : ChargeService) : Prop where
  accepted : offering.accepted? = some (.serviceDiscovery content)
  offered : content.chargeService = some chargeService
  isOffered : offering.session.context.requiredMode
    (equipment.vehicle.energyMode offering.session.onboard) ∈ chargeService.supportedModes

/-- The context once an offer has been taken. -/
def taken (equipment : Equipment ω) (offering : Passage ω) (content : ServiceDiscoveryRes)
    (chargeService : ChargeService) : Context :=
  offering.session.context.afterOffer content
    (equipment.vehicle.energyMode offering.session.onboard)
    (equipment.vehicle.certInstallNeeded offering.session.onboard) chargeService

/-- The service whose details are asked for upon an offer. -/
def askedFor? (equipment : Equipment ω) (offering : Passage ω) (content : ServiceDiscoveryRes) :
    Option Service :=
  offering.session.context.certificateService? content
    (equipment.vehicle.certInstallNeeded offering.session.onboard)

/-- The details of a service are asked for and given, if there is one to ask for; nothing else
happens. -/
inductive GiveDetails : Option Service → List (Passage ω) → Prop where
  | nothing : GiveDetails none []
  | ofService {service : Service} {asking : Passage ω} {details : ServiceDetailRes}
      (asks : asking.step.request = .serviceDetail { serviceId := service.serviceId })
      (given : asking.accepted? = some (.serviceDetail details)) :
      GiveDetails (some service) [asking]

variable {equipment : Equipment ω} {first second : Passage ω}

/-- What follows on an offer is the selection, or the request for the details of the service for
contract certificates. -/
theorem Leads.takes (leads : first.Leads equipment second)
    (discovers : first.step.exchange = .serviceDiscovery)
    (noneSelected : first.session.context.services = [])
    (nonePending : first.session.context.pendingDetails = []) :
    ∃ content chargeService, first.Takes equipment content chargeService ∧
      second.session.context.negotiated = (first.taken equipment content chargeService).negotiated ∧
      second.step.request =
        match first.askedFor? equipment content with
        | some service => .serviceDetail { serviceId := service.serviceId }
        | none =>
          .paymentServiceSelection (first.taken equipment content chargeService).paymentSelection := by
  obtain ⟨header, response, after, accepted, awaited, responded, second_eq⟩ := leads.exists_response
  rw [exchange_move, discovers] at awaited
  cases response with
  | serviceDiscovery content =>
      obtain ⟨chargeService, offered, isOffered, after_eq, request_eq⟩ :=
        Turn.serviceDiscovery_of_nothing_selected noneSelected nonePending
          (Turn.next_eq_ok.mp responded)
      refine ⟨content, chargeService, ⟨accepted, offered, isOffered⟩, ?_, ?_⟩
      · rw [second_eq, after_eq]
        exact Context.view_requestSent Context.negotiated (fun _ _ _ => rfl) _ _ _
      · rw [after_eq] at request_eq
        exact request_eq
  | _ => cases awaited

/-- What follows on the last details that were to be asked for is the selection. -/
theorem Leads.selects (leads : first.Leads equipment second)
    (asks : first.step.exchange = .serviceDetail)
    (nonePending : first.session.context.pendingDetails = []) :
    ∃ details, first.accepted? = some (.serviceDetail details) ∧
      second.session.context.negotiated = first.session.context.negotiated ∧
      second.step.request = .paymentServiceSelection first.session.context.paymentSelection := by
  obtain ⟨header, response, after, given, awaited, responded, second_eq⟩ := leads.exists_response
  rw [exchange_move, asks] at awaited
  cases response with
  | serviceDetail details =>
      obtain ⟨rfl, request_eq⟩ :=
        Turn.serviceDetail_of_nothing_pending nonePending (Turn.next_eq_ok.mp responded)
      refine ⟨details, given, ?_, request_eq⟩
      rw [second_eq]
      exact Context.view_requestSent Context.negotiated (fun _ _ _ => rfl) _ _ _
  | _ => cases awaited

end Passage

/-! ## Runs -/

theorem Context.paymentSelection_eq {first second : Context}
    (same : first.negotiated = second.negotiated) :
    first.paymentSelection = second.paymentSelection :=
  congrArg (fun negotiated => PaymentServiceSelectionReq.mk (negotiated.1.getD .external)
    negotiated.2.2.1) same

theorem Context.pendingDetails_eq {first second : Context}
    (same : first.negotiated = second.negotiated) : first.pendingDetails = second.pendingDetails :=
  congrArg (fun negotiated => negotiated.2.2.2) same

namespace Run

open Passage

variable {equipment : Equipment ω} {cancelAt : Option Milliseconds} {replies : List Reply}
  {session : Session ω} {front back : List (Passage ω)} {passage : Passage ω}

/-- In a session that begins with nothing selected, the offer is taken in the second passage, with
what the vehicle is like from the first one on. -/
theorem offer_taken {offering next : Passage ω} (noneSelected : session.context.services = [])
    (nonePending : session.context.pendingDetails = [])
    (shape : passages equipment cancelAt replies 0 (Step.first session.context) session =
      front ++ offering :: next :: back)
    (discovers : offering.step.exchange = .serviceDiscovery) :
    ∃ setup content chargeService, front = [setup] ∧
      offering.session.onboard = session.onboard ∧
      offering.Takes equipment content chargeService ∧
      next.session.context.negotiated =
        (offering.taken equipment content chargeService).negotiated ∧
      next.step.request =
        match offering.askedFor? equipment content with
        | some service => .serviceDetail { serviceId := service.serviceId }
        | none => .paymentServiceSelection
            (offering.taken equipment content chargeService).paymentSelection := by
  obtain ⟨setup, sessionId, evseId, issued, rfl, session_eq⟩ :=
    exists_setup equipment cancelAt replies session shape discovers
  obtain ⟨content, chargeService, takes⟩ :=
    (leads_of_passages_eq equipment cancelAt replies session shape).takes discovers
      (by rw [session_eq]; exact noneSelected) (by rw [session_eq]; exact nonePending)
  exact ⟨setup, content, chargeService, rfl, by rw [session_eq], takes⟩

/-- The details of a service are asked for in the third passage only, once an offer with the service
has been taken. -/
theorem exists_offer_of_details (noneSelected : session.context.services = [])
    (nonePending : session.context.pendingDetails = [])
    (shape : passages equipment cancelAt replies 0 (Step.first session.context) session =
      front ++ passage :: back)
    (asks : passage.step.exchange = .serviceDetail) :
    ∃ setup offering content chargeService service, front = [setup, offering] ∧
      offering.session.onboard = session.onboard ∧
      offering.Takes equipment content chargeService ∧
      offering.askedFor? equipment content = some service ∧
      passage.step.request = .serviceDetail { serviceId := service.serviceId } ∧
      passage.session.context.negotiated =
        (offering.taken equipment content chargeService).negotiated := by
  induction front using List.reverseRecOn generalizing passage back with
  | nil =>
      obtain ⟨before, previous, nil_eq, -⟩ :=
        exists_previous equipment cancelAt replies session shape (by simp [asks])
      simp at nil_eq
  | append_singleton before previous ih =>
      rw [List.append_assoc] at shape
      have leads := leads_of_passages_eq equipment cancelAt replies session shape
      obtain discovers | asksBefore :=
        Exchange.precedes_serviceDetail (asks ▸ leads.follows.exchange_mem)
      · obtain ⟨setup, content, chargeService, rfl, onboard_eq, takes, negotiated_eq, request_eq⟩ :=
          offer_taken noneSelected nonePending shape discovers
        cases found : previous.askedFor? equipment content with
        | none =>
            rw [found] at request_eq
            rw [Step.exchange, request_eq] at asks
            cases asks
        | some service =>
            rw [found] at request_eq
            exact ⟨setup, previous, content, chargeService, service, rfl, onboard_eq, takes, found,
              request_eq, negotiated_eq⟩
      · -- After the details that were asked for first there are none left to ask for.
        obtain ⟨_, _, _, _, _, -, -, -, -, -, negotiated_eq⟩ := ih shape asksBefore
        obtain ⟨-, -, -, request_eq⟩ :=
          leads.selects asksBefore (Context.pendingDetails_eq negotiated_eq)
        rw [Step.exchange, request_eq] at asks
        cases asks

/-- What is selected follows from the offer, with the details of at most one service asked for in
between. -/
theorem exists_offer_of_selection (noneSelected : session.context.services = [])
    (nonePending : session.context.pendingDetails = [])
    (shape : passages equipment cancelAt replies 0 (Step.first session.context) session =
      front ++ passage :: back)
    (selects : passage.step.exchange = .paymentServiceSelection) :
    ∃ setup offering asking content chargeService, front = setup :: offering :: asking ∧
      offering.session.onboard = session.onboard ∧
      offering.Takes equipment content chargeService ∧
      GiveDetails (offering.askedFor? equipment content) asking ∧
      passage.step.request = .paymentServiceSelection
        (offering.taken equipment content chargeService).paymentSelection ∧
      passage.session.context.negotiated =
        (offering.taken equipment content chargeService).negotiated := by
  obtain ⟨before, previous, rfl, leads, -⟩ :=
    exists_previous equipment cancelAt replies session shape (by simp [selects])
  rw [List.append_assoc] at shape
  obtain discovers | asks :=
    Exchange.precedes_paymentServiceSelection (selects ▸ leads.follows.exchange_mem)
  · obtain ⟨setup, content, chargeService, rfl, onboard_eq, takes, negotiated_eq, request_eq⟩ :=
      offer_taken noneSelected nonePending shape discovers
    refine ⟨setup, previous, [], content, chargeService, rfl, onboard_eq, takes, ?_⟩
    cases found : previous.askedFor? equipment content with
    | none =>
        rw [found] at request_eq
        exact ⟨.nothing, request_eq, negotiated_eq⟩
    | some service =>
        rw [found] at request_eq
        rw [Step.exchange, request_eq] at selects
        cases selects
  · obtain ⟨setup, offering, content, chargeService, service, rfl, onboard_eq, takes, found,
      asks_eq, negotiated_eq⟩ := exists_offer_of_details noneSelected nonePending shape asks
    obtain ⟨details, given, kept, request_eq⟩ :=
      leads.selects asks (Context.pendingDetails_eq negotiated_eq)
    refine ⟨setup, offering, [previous], content, chargeService, rfl, onboard_eq, takes, ?_, ?_,
      kept.trans negotiated_eq⟩
    · rw [found]
      exact .ofService asks_eq given
    · rw [request_eq, Context.paymentSelection_eq negotiated_eq]

end Run

/-! ## Scenarios -/

namespace Scenario

variable {scenario : Scenario} {front back : List (Passage Onboard)}
  {passage : Passage Onboard}

/-- The vehicle needs a contract certificate. -/
def certInstallNeeded (scenario : Scenario) : Bool :=
  scenario.onboard.simulator.settings.certInstallNeeded

/-- The details of a service have been asked for, and given, if it was found; if there was none,
nothing has been asked for. -/
def AsksFor (found : Option Service) (asking : List (Passage Onboard)) : Prop :=
  match found with
  | some service => ∃ asks details, asking = [asks] ∧
      asks.step.request = .serviceDetail { serviceId := service.serviceId } ∧
      asks.accepted? = some (.serviceDetail details)
  | none => asking = []

theorem asksFor_of_giveDetails {found : Option Service} {asking : List (Passage Onboard)}
    (gives : Passage.GiveDetails found asking) : AsksFor found asking := by
  cases gives with
  | nothing => rfl
  | ofService asks given => exact ⟨_, _, rfl, asks, given⟩

/-- What is selected follows from the offer, with the details of at most one service asked for in
between. -/
theorem exists_offer_of_selection {selection : PaymentServiceSelectionReq}
    (shape : scenario.passages = front ++ passage :: back)
    (request_eq : passage.step.request = .paymentServiceSelection selection) :
    ∃ setup offering asking content chargeService, front = setup :: offering :: asking ∧
      offering ∈ scenario.passages ∧
      offering.accepted? = some (.serviceDiscovery content) ∧
      content.chargeService = some chargeService ∧
      selection = (offering.session.context.afterOffer content scenario.ownMode
        scenario.certInstallNeeded chargeService).paymentSelection ∧
      AsksFor (offering.session.context.certificateService? content scenario.certInstallNeeded)
        asking := by
  obtain ⟨setup, offering, asking, content, chargeService, rfl, onboard_eq, takes, gives,
    selects, -⟩ := Run.exists_offer_of_selection rfl rfl shape
      (congrArg Request.exchange request_eq)
  have isOffering : offering ∈ scenario.passages := by simp [shape]
  have ownMode : scenario.equipment.vehicle.energyMode offering.session.onboard =
      scenario.ownMode := by rw [onboard_eq]; rfl
  have needed : scenario.equipment.vehicle.certInstallNeeded offering.session.onboard =
      scenario.certInstallNeeded := by rw [onboard_eq]; rfl
  rw [request_eq, Passage.taken, ownMode, needed] at selects
  rw [Passage.askedFor?, needed] at gives
  exact ⟨setup, offering, asking, content, chargeService, rfl, isOffering, takes.accepted,
    takes.offered, Request.paymentServiceSelection.inj selects, asksFor_of_giveDetails gives⟩

/-- A certificate is asked for under a contract, by a vehicle that needs one. -/
theorem needed_of_installs {selecting : Passage Onboard}
    (isSelecting : selecting ∈ scenario.passages)
    (leads : selecting.Leads scenario.equipment passage)
    (selects : selecting.step.exchange = .paymentServiceSelection)
    (installs : passage.step.exchange = .certificateInstallation) :
    selecting.session.context.paymentOption = some .contract ∧
      scenario.certInstallNeeded = true := by
  obtain ⟨header, response, after, -, awaited, responded, -⟩ := leads.exists_response
  rw [Passage.exchange_move, selects] at awaited
  cases response with
  | paymentServiceSelection answer =>
      obtain ⟨-, -, step_eq⟩ | ⟨isContract, needed, -⟩ | ⟨-, -, presented⟩ :=
        Turn.paymentServiceSelection_eq_ok.mp (Turn.next_eq_ok.mp responded)
      · rw [step_eq] at installs
        cases installs
      · refine ⟨isContract, ?_⟩
        rw [certInstallNeeded, ← scenario.settings_eq selecting isSelecting]
        exact needed
      · obtain ⟨_, _, -, -, -, step_eq⟩ := Turn.presentContract_eq_ok.mp presented
        rw [step_eq] at installs
        cases installs
  | _ => cases awaited

/-- A certificate is asked for only over a protected connection, for a contract that the station
accepts, and if the vehicle needs one.  If a service for contract certificates is on offer, its
details have been asked for and given before, and it has been selected.  If there is none, nothing
but the charge service has been selected. -/
theorem installation_follows_offer (scenario : Scenario) :
    scenario.run.sent = scenario.passages.map Passage.sending ∧
      ∀ front passage back, scenario.passages = front ++ passage :: back →
        passage.step.exchange = .certificateInstallation →
          scenario.isTls = true ∧ scenario.certInstallNeeded = true ∧
          ∃ setup offering asking selecting content chargeService selection,
            front = setup :: offering :: (asking ++ [selecting]) ∧
            offering.accepted? = some (.serviceDiscovery content) ∧
            content.chargeService = some chargeService ∧
            .contract ∈ content.paymentOptions ∧
            selecting.step.request = .paymentServiceSelection selection ∧
            selection.selectedPaymentOption = .contract ∧
            AsksFor content.certificateServices.head? asking ∧
            (∀ service ∈ content.certificateServices.head?,
              ∃ selected ∈ selection.selectedServices, selected.serviceId = service.serviceId) ∧
            (content.certificateServices = [] →
              selection.selectedServices = [.plain chargeService.serviceId]) := by
  refine ⟨scenario.sent_run, fun front passage back shape installs => ?_⟩
  obtain ⟨before, selecting, rfl, shape, leads, precedes⟩ :=
    exists_previous shape (by simp [installs])
  have isSelecting : selecting ∈ scenario.passages := by simp [shape]
  have selects : selecting.step.exchange = .paymentServiceSelection := by
    obtain ⟨progress, move_eq⟩ := passage.move.exists_eq_ofExchange
    rw [move_eq, Passage.exchange_move, installs] at precedes
    rw [← Passage.exchange_move, List.mem_singleton.mp precedes]
    rfl
  obtain ⟨selection, request_eq⟩ := Request.exists_paymentServiceSelection selects
  obtain ⟨isContract, needed⟩ := needed_of_installs isSelecting leads selects installs
  obtain ⟨setup, offering, asking, content, chargeService, rfl, isOffering, accepted, offered, rfl,
    asksFor⟩ := exists_offer_of_selection shape request_eq
  -- What is held under the selection is what the offer was taken with.
  have isContract : offering.session.context.optionFrom content = .contract := by
    have selected := ((scenario.fits selecting isSelecting).repeats
      (scenario.sends_passages selecting isSelecting)).1 _ request_eq
    rw [isContract] at selected
    exact (Option.some.inj selected).symm
  obtain ⟨isTls, isOffered, -⟩ := PaymentOption.choose_eq_contract.mp isContract
  have found := Context.certificateService?_eq isTls isContract
  rw [needed] at request_eq asksFor
  rw [scenario.isTls_eq offering isOffering] at isTls
  refine ⟨isTls, needed, setup, offering, asking, selecting, content, chargeService, _, rfl,
    accepted, offered, isOffered, request_eq, isContract, found ▸ asksFor, ?_, ?_⟩
  · intro service isFirst
    exact Context.exists_selected_afterOffer scenario.ownMode (found.trans isFirst)
  · intro nothing
    exact Context.services_afterOffer scenario.ownMode (by rw [found, nothing]; rfl)

end Scenario

/-! ## An installation that is not agreed on -/

namespace Passage

/-- The services for contract certificates that are on offer in the response of a passage. -/
def certificateServices (passage : Passage ω) : List Service :=
  match passage.accepted? with
  | some (.serviceDiscovery content) => content.certificateServices
  | _ => []

/-- Whether the details of a service are asked for in a passage, and given. -/
def givesDetails (serviceId : ServiceId) (passage : Passage ω) : Bool :=
  match passage.step.request with
  | .serviceDetail content => content.serviceId == serviceId && passage.accepted?.isSome
  | _ => false

/-- Whether a service is selected in a passage. -/
def selectsService (serviceId : ServiceId) (passage : Passage ω) : Bool :=
  match passage.step.request with
  | .paymentServiceSelection content =>
    content.selectedServices.any fun service => service.serviceId == serviceId
  | _ => false

end Passage

namespace Scenario

/-- In a scenario a certificate is asked for only if a service for that is on offer, with its details
asked for and given, and is selected. -/
def InstallsAsAgreed (scenario : Scenario) : Prop :=
  ∀ passage ∈ scenario.passages, passage.step.exchange = .certificateInstallation →
    ∃ offering ∈ scenario.passages, ∃ service ∈ offering.certificateServices,
      (∃ asking ∈ scenario.passages, asking.givesDetails service.serviceId = true) ∧
        ∃ selecting ∈ scenario.passages, selecting.selectsService service.serviceId = true

instance (scenario : Scenario) : Decidable scenario.InstallsAsAgreed := by
  unfold InstallsAsAgreed
  infer_instance

/-- A station that accepts contracts but offers no service for contract certificates, and a vehicle
that needs one. -/
def unofferedInstallation : Scenario :=
  let scenario := ofResponses .acThreePhaseCore
    [.sessionSetup { responseCode := .ok, evseId := "", timeStamp := none },
      .serviceDiscovery {
        responseCode := .ok
        paymentOptions := [.contract]
        chargeService := some {
          serviceId := 1
          serviceName := none
          serviceCategory := .evCharging
          freeService := true
          supportedModes := [.acThreePhaseCore] }
        serviceList := none },
      .paymentServiceSelection { responseCode := .ok }]
  { scenario with
    credentials :=
      { scenario.credentials with
        certificate := fun _ _ => .ok []
        rootIds := fun _ => .ok [] }
    onboard :=
      { simulator :=
          Simulator.start { VehicleSettings.standard with certInstallNeeded := true } false
        directory := Directory.empty "" } }

/-- Whether a certificate is asked for is decided without regard to the offer. -/
theorem not_installsAsAgreed : ¬unofferedInstallation.InstallsAsAgreed := by
  decide +kernel

end Scenario
end PlugAndCharge
