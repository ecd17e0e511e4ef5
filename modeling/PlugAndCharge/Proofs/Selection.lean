import PlugAndCharge.Proofs.Resumption

/-!
# What is selected

The selection of a session is made from the one offer that it has been given.  It begins with the
charge service, names no service twice and none that is not on offer, and the details of whatever
else it names have been asked for, once, and given.  Without an offer that fits the session fails,
and nothing is settled.
-/

namespace PlugAndCharge

variable {ω : Type}

/-! ## Selected services -/

namespace Context

variable {services : List SelectedService} {service selected : SelectedService}

theorem mem_or_eq_of_mem_withService (isSelected : selected ∈ withService services service) :
    selected ∈ services ∨ selected = service := by
  unfold withService at isSelected
  split at isSelected
  · exact .inl isSelected
  · obtain isSelected | isAdded := List.mem_append.mp isSelected
    · exact .inl isSelected
    · exact .inr (List.mem_singleton.mp isAdded)

theorem isPrefix_withService : services <+: withService services service := by
  unfold withService
  split
  · exact List.prefix_rfl
  · exact List.prefix_append services [service]

/-- A service is not selected twice. -/
theorem nodup_withService (distinct : (services.map SelectedService.serviceId).Nodup) :
    ((withService services service).map SelectedService.serviceId).Nodup := by
  unfold withService
  split
  next => exact distinct
  next isNew =>
    rw [List.map_append, List.map_singleton]
    refine List.Nodup.append distinct (List.nodup_singleton _) ?_
    rw [List.disjoint_singleton]
    intro isOld
    obtain ⟨other, isOther, same⟩ := List.mem_map.mp isOld
    exact isNew (List.any_eq_true.mpr ⟨other, isOther, beq_iff_eq.mpr same⟩)

end Context

namespace PaymentServiceSelectionReq

/-- The ids of the services that are selected. -/
def serviceIds (selection : PaymentServiceSelectionReq) : List ServiceId :=
  selection.selectedServices.map SelectedService.serviceId

/-- A selection is made from an offer: it keeps to what is on offer and begins with the charge
service. -/
structure IsFrom (content : ServiceDiscoveryRes) (chargeService : ChargeService) (isTls : Bool)
    (selection : PaymentServiceSelectionReq) : Prop where
  contract : selection.selectedPaymentOption = .contract →
    isTls = true ∧ .contract ∈ content.paymentOptions
  first : selection.serviceIds.head? = some chargeService.serviceId
  distinct : selection.serviceIds.Nodup
  offered : ∀ serviceId ∈ selection.serviceIds, serviceId = chargeService.serviceId ∨
    ∃ service ∈ content.serviceList.getD [], service.serviceId = serviceId

end PaymentServiceSelectionReq

/-! ## Offers -/

theorem Context.mem_of_certificateService? {context : Context} {content : ServiceDiscoveryRes}
    {certInstallNeeded : Bool} {service : Service}
    (found : context.certificateService? content certInstallNeeded = some service) :
    service ∈ content.serviceList.getD [] := by
  unfold certificateService? at found
  split at found
  · exact List.mem_of_find?_eq_some found
  · cases found

namespace Passage

variable {equipment : Equipment ω} {offering : Passage ω} {content : ServiceDiscoveryRes}
  {chargeService : ChargeService}

/-- The charge service is selected, with the service whose details are asked for after it unless
they have the same id. -/
theorem services_taken :
    (offering.taken equipment content chargeService).services =
      match offering.askedFor? equipment content with
      | some service =>
        Context.withService [.plain chargeService.serviceId] (.plain service.serviceId)
      | none => [.plain chargeService.serviceId] := rfl

theorem serviceIds_taken_of_none (notFound : offering.askedFor? equipment content = none) :
    (offering.taken equipment content chargeService).paymentSelection.serviceIds =
      [chargeService.serviceId] := by
  simp only [PaymentServiceSelectionReq.serviceIds, Context.paymentSelection, services_taken,
    notFound]
  rfl

theorem mem_serviceIds_taken {service : Service} {serviceId : ServiceId}
    (found : offering.askedFor? equipment content = some service) :
    serviceId ∈ (offering.taken equipment content chargeService).paymentSelection.serviceIds ↔
      serviceId = chargeService.serviceId ∨ serviceId = service.serviceId := by
  simp only [PaymentServiceSelectionReq.serviceIds, Context.paymentSelection, services_taken, found]
  constructor
  · intro isMember
    obtain ⟨selected, isSelected, rfl⟩ := List.mem_map.mp isMember
    obtain isCharge | rfl := Context.mem_or_eq_of_mem_withService isSelected
    · obtain rfl := List.mem_singleton.mp isCharge
      exact .inl rfl
    · exact .inr rfl
  · rintro (rfl | rfl)
    · exact List.mem_map_of_mem (Context.isPrefix_withService.subset List.mem_cons_self)
    · obtain ⟨selected, isSelected, same⟩ :=
        Context.mem_withService [.plain chargeService.serviceId] service.serviceId
      exact List.mem_map.mpr ⟨selected, isSelected, same⟩

/-- What is selected upon an offer is on offer. -/
theorem isFrom_taken :
    (offering.taken equipment content chargeService).paymentSelection.IsFrom content chargeService
      offering.session.context.isTls where
  contract isContract := by
    obtain ⟨isTls, onOffer, -⟩ := PaymentOption.choose_eq_contract.mp isContract
    exact ⟨isTls, onOffer⟩
  first := by
    simp only [PaymentServiceSelectionReq.serviceIds, Context.paymentSelection, services_taken]
    cases offering.askedFor? equipment content with
    | none => rfl
    | some service =>
        obtain ⟨more, services_eq⟩ :
            [.plain chargeService.serviceId] <+: Context.withService
              [.plain chargeService.serviceId] (.plain service.serviceId) :=
          Context.isPrefix_withService
        simp only [← services_eq]
        rfl
  distinct := by
    simp only [PaymentServiceSelectionReq.serviceIds, Context.paymentSelection, services_taken]
    cases offering.askedFor? equipment content with
    | none => exact List.nodup_singleton _
    | some service => exact Context.nodup_withService (List.nodup_singleton _)
  offered serviceId isMember := by
    cases found : offering.askedFor? equipment content with
    | none =>
        rw [serviceIds_taken_of_none found] at isMember
        exact .inl (List.mem_singleton.mp isMember)
    | some service =>
        obtain isCharge | rfl := (mem_serviceIds_taken found).mp isMember
        · exact .inl isCharge
        · exact .inr ⟨service, Context.mem_of_certificateService? found, rfl⟩

/-- Whether the details of a service are asked for in a passage. -/
def asksForDetails (serviceId : ServiceId) (passage : Passage ω) : Bool :=
  passage.step.request == .serviceDetail { serviceId }

theorem request_eq_of_asksForDetails {serviceId : ServiceId} {passage : Passage ω} :
    passage.asksForDetails serviceId = true ↔
      passage.step.request = .serviceDetail { serviceId } :=
  beq_iff_eq

/-- Passages in which the details of a service are asked for and given, each once. -/
def GiveDetailsOnce (serviceId : ServiceId) (passages : List (Passage ω)) : Prop :=
  passages.countP (asksForDetails serviceId) = 1 ∧ passages.countP (givesDetails serviceId) = 1

theorem GiveDetails.once {service : Service} {asking : List (Passage ω)}
    (gives : GiveDetails (some service) asking) : GiveDetailsOnce service.serviceId asking := by
  cases gives with
  | ofService asks given =>
      constructor
      · simp [asksForDetails, asks]
      · simp [givesDetails, asks, given]

/-- Passages with other requests add nothing. -/
theorem GiveDetailsOnce.cons {serviceId : ServiceId} {passages : List (Passage ω)}
    {passage : Passage ω} (once : GiveDetailsOnce serviceId passages)
    (other : passage.step.exchange ≠ .serviceDetail) :
    GiveDetailsOnce serviceId (passage :: passages) := by
  have notAsking : passage.asksForDetails serviceId = false := by
    rw [Bool.eq_false_iff]
    intro asks
    rw [Step.exchange, request_eq_of_asksForDetails.mp asks] at other
    exact other rfl
  have notGiving : passage.givesDetails serviceId = false := by
    unfold givesDetails
    split
    next content request_eq =>
      rw [Step.exchange, request_eq] at other
      exact absurd rfl other
    next => rfl
  constructor
  · rw [List.countP_cons_of_neg (by simp [notAsking]), once.1]
  · rw [List.countP_cons_of_neg (by simp [notGiving]), once.2]

end Passage

/-! ## Sessions -/

namespace ConfiguredSession

variable {configured : ConfiguredSession ω}

/-- The mode that an offer has to contain: the configured one to resume with, or else the vehicle's
own. -/
def requiredMode (configured : ConfiguredSession ω) : EnergyTransferMode :=
  configured.session.context.requiredMode
    (configured.equipment.vehicle.energyMode configured.onboard)

/-- The session fails as station and vehicle do not fit, and nothing has been settled or selected. -/
structure FailsUnsettled (configured : ConfiguredSession ω) (cause : Incompatibility) : Prop where
  failed : configured.run.result = .error (.incompatible cause)
  noOption : configured.run.session.context.paymentOption = none
  noMode : configured.run.session.context.energyMode = none
  noService : configured.run.session.context.services = []

/-- Where services are on offer, the required mode is the configured one, and nothing has been
settled. -/
theorem unsettled_of_offer {offering : Passage ω} (isOffering : offering ∈ configured.passages)
    (discovers : offering.step.exchange = .serviceDiscovery) :
    offering.session.context.requiredMode
        (configured.equipment.vehicle.energyMode offering.session.onboard) =
          configured.requiredMode ∧
      offering.session.context.choices = Choices.none ∧
      offering.session.context.services = [] := by
  obtain ⟨sessionId, evseId, issued, session_eq⟩ := exists_session_eq isOffering discovers
  rw [session_eq]
  exact ⟨rfl, rfl, rfl⟩

theorem failsUnsettled_of_result {offering : Passage ω} {cause : Incompatibility}
    {after : Session ω} (isOffering : offering ∈ configured.passages)
    (failed : offering.result configured.equipment = .error (.incompatible cause) after)
    (unchosen : after.context.choices = Choices.none) (unselected : after.context.services = []) :
    configured.FailsUnsettled cause := by
  obtain ⟨front, back, shape⟩ := List.append_of_mem isOffering
  obtain ⟨-, run_eq⟩ := Run.eq_nil_of_result_eq_error _ _ _ _ shape failed
  exact {
    failed := congrArg Run.result run_eq
    noOption := (congrArg (fun run => run.session.context.paymentOption) run_eq).trans
      (congrArg Choices.paymentOption unchosen)
    noMode := (congrArg (fun run => run.session.context.energyMode) run_eq).trans
      (congrArg Choices.energyMode unchosen)
    noService := (congrArg (fun run => run.session.context.services) run_eq).trans unselected }

/-- An offer that does not fit fails the session before anything is settled. -/
theorem failsUnsettled {offering : Passage ω} {content : ServiceDiscoveryRes}
    (isOffering : offering ∈ configured.passages)
    (accepted : offering.accepted? = some (.serviceDiscovery content)) :
    (content.chargeService = none → configured.FailsUnsettled .noChargeService) ∧
      ∀ chargeService, content.chargeService = some chargeService →
        configured.requiredMode ∉ chargeService.supportedModes →
          configured.FailsUnsettled (.modeNotOffered configured.requiredMode) := by
  obtain ⟨mode_eq, unchosen, unselected⟩ :=
    unsettled_of_offer isOffering (Passage.exchange_of_accepted accepted).symm
  refine ⟨fun missing => ?_, fun chargeService offered notOffered => ?_⟩
  · obtain ⟨header, result_eq⟩ := Passage.exists_result_eq_of_accepted accepted
    have failed : Turn.serviceDiscovery configured.equipment content offering.session =
        .error (.incompatible .noChargeService) offering.session := by
      rw [Turn.serviceDiscovery, missing]
      rfl
    exact failsUnsettled_of_result isOffering ((result_eq _).trans (Turn.map_eq_error.mpr failed))
      unchosen unselected
  · obtain ⟨after, failed, after_eq, -⟩ :=
      (Passage.refuses_of_not_offered accepted offered mode_eq notOffered unchosen
        unselected).refused
    subst after_eq
    exact failsUnsettled_of_result isOffering failed unchosen unselected

/-- Details are asked for of services only that are selected from the offer that has been given. -/
theorem mem_serviceIds_of_asks {setup offering asks : Passage ω} {later : List (Passage ω)}
    {content : ServiceDiscoveryRes} {chargeService : ChargeService} {request : ServiceDetailReq}
    (shape : configured.passages = setup :: offering :: later)
    (takes : offering.Takes configured.equipment content chargeService)
    (isAsking : asks ∈ configured.passages) (request_eq : asks.step.request = .serviceDetail request) :
    request.serviceId ∈
      (offering.taken configured.equipment content chargeService).paymentSelection.serviceIds := by
  obtain ⟨front, back, shape'⟩ := List.append_of_mem isAsking
  obtain ⟨setup', offering', content', chargeService', service, rfl, -, takes', found, asks_eq, -⟩ :=
    Run.exists_offer_of_details rfl rfl shape' (congrArg Request.exchange request_eq)
  -- There is one offer in a session, in the second passage.
  obtain ⟨-, rest⟩ := List.cons.inj (shape.symm.trans shape')
  obtain ⟨rfl, -⟩ := List.cons.inj rest
  obtain rfl : content = content' :=
    Response.serviceDiscovery.inj (Option.some.inj (takes.accepted.symm.trans takes'.accepted))
  obtain rfl := Request.serviceDetail.inj (request_eq.symm.trans asks_eq)
  exact (Passage.mem_serviceIds_taken found).mpr (.inr rfl)

theorem setsUp_of_head {setup : Passage ω} {later : List (Passage ω)}
    (shape : configured.passages = setup :: later) : setup.step.exchange = .sessionSetup := by
  obtain rfl := Run.eq_begin_of_passages_eq _ _ shape
  rfl

/-- The details of what is selected beside the charge service have been asked for and given. -/
theorem giveDetailsOnce_of_mem {setup offering : Passage ω} {asking later : List (Passage ω)}
    {content : ServiceDiscoveryRes} {chargeService : ChargeService} {serviceId : ServiceId}
    (shape : configured.passages = setup :: offering :: asking ++ later)
    (discovers : offering.step.exchange = .serviceDiscovery)
    (gives : Passage.GiveDetails (offering.askedFor? configured.equipment content) asking)
    (isSelected : serviceId ∈
      (offering.taken configured.equipment content chargeService).paymentSelection.serviceIds)
    (notCharge : serviceId ≠ chargeService.serviceId) :
    Passage.GiveDetailsOnce serviceId (setup :: offering :: asking) := by
  cases found : offering.askedFor? configured.equipment content with
  | none =>
      rw [Passage.serviceIds_taken_of_none found] at isSelected
      exact absurd (List.mem_singleton.mp isSelected) notCharge
  | some service =>
      obtain isCharge | rfl := (Passage.mem_serviceIds_taken found).mp isSelected
      · exact absurd isCharge notCharge
      · rw [found] at gives
        exact (gives.once.cons (by simp [discovers])).cons (by simp [setsUp_of_head shape])

/-- A selection is made from the offer of the session.  It is for a contract only over a protected
connection and if the station accepts contracts; it begins with the charge service, which has the
mode that is settled on; it names no service twice and none that is not on offer; and the details of
just the services in it are asked for, once and with an answer for each but the charge service.  If
there is no charge service, or none with the required mode, the session fails as incompatible and
neither settles on anything nor selects a service. -/
theorem selection_follows_offer (configured : ConfiguredSession ω) :
    configured.run.sent = configured.passages.map Passage.sending ∧
      (∀ front passage back selection, configured.passages = front ++ passage :: back →
        passage.step.request = .paymentServiceSelection selection →
          ∃ setup offering asking content chargeService, front = setup :: offering :: asking ∧
            offering.accepted? = some (.serviceDiscovery content) ∧
            content.chargeService = some chargeService ∧
            selection.IsFrom content chargeService configured.isTls ∧
            passage.session.context.paymentOption = some selection.selectedPaymentOption ∧
            passage.session.context.energyMode = some configured.requiredMode ∧
            configured.requiredMode ∈ chargeService.supportedModes ∧
            (∀ serviceId ∈ selection.serviceIds, serviceId ≠ chargeService.serviceId →
              Passage.GiveDetailsOnce serviceId front) ∧
            ∀ asks ∈ configured.passages, ∀ request,
              asks.step.request = .serviceDetail request →
                request.serviceId ∈ selection.serviceIds) ∧
      ∀ offering ∈ configured.passages, ∀ content,
        offering.accepted? = some (.serviceDiscovery content) →
          (content.chargeService = none → configured.FailsUnsettled .noChargeService) ∧
          ∀ chargeService, content.chargeService = some chargeService →
            configured.requiredMode ∉ chargeService.supportedModes →
              configured.FailsUnsettled (.modeNotOffered configured.requiredMode) := by
  refine ⟨?_, fun front passage back selection shape request_eq => ?_, ?_⟩
  · exact Run.sent_drive _ _ _ _ _ _
  · obtain ⟨setup, offering, asking, content, chargeService, rfl, -, takes, gives, selects,
      negotiated_eq⟩ :=
        Run.exists_offer_of_selection rfl rfl shape (congrArg Request.exchange request_eq)
    have isOffering : offering ∈ configured.passages := by simp [shape]
    have discovers := (Passage.exchange_of_accepted takes.accepted).symm
    obtain ⟨mode_eq, -⟩ := unsettled_of_offer isOffering discovers
    obtain rfl := Request.paymentServiceSelection.inj (request_eq.symm.trans selects)
    refine ⟨setup, offering, asking, content, chargeService, rfl, takes.accepted, takes.offered,
      ?_, ?_, ?_, ?_, ?_, ?_⟩
    · rw [← isTls_eq isOffering]
      exact Passage.isFrom_taken
    · exact congrArg (fun negotiated => negotiated.1) negotiated_eq
    · rw [← mode_eq]
      exact congrArg (fun negotiated => negotiated.2.1) negotiated_eq
    · rw [← mode_eq]
      exact takes.isOffered
    · intro serviceId isSelected notCharge
      exact giveDetailsOnce_of_mem shape discovers gives isSelected notCharge
    · intro asks isAsking request asks_eq
      exact mem_serviceIds_of_asks shape takes isAsking asks_eq
  · intro offering isOffering content accepted
    exact failsUnsettled isOffering accepted

end ConfiguredSession
end PlugAndCharge
