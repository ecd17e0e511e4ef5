import PlugAndCharge.Proofs.Passage

/-!
# Parts of what is on board

More may be kept on board than a session needs, such as a record of what the vehicle was asked.  If
one equipment does with a part of its state what another one does with the whole of its own, then so
does every turn (`Turn.Refines`), and their runs differ in nothing but what else is on board.
-/

namespace PlugAndCharge

open P256 (PrivateKey)

variable {ω ν : Type} {part : ω → ν}

/-- A session with a part of what is on board. -/
def Session.restrict (part : ω → ν) (session : Session ω) : Session ν where
  context := session.context
  onboard := part session.onboard

/-- A vehicle does with a part of its state what another one does. -/
structure Vehicle.Refines (part : ω → ν) (vehicle : Vehicle ω) (base : Vehicle ν) : Prop where
  energyMode : ∀ state, vehicle.energyMode state = base.energyMode (part state)
  certInstallNeeded : ∀ state,
    vehicle.certInstallNeeded state = base.certInstallNeeded (part state)
  chargeParameters : ∀ state, vehicle.chargeParameters state = base.chargeParameters (part state)
  wantsPause : ∀ state, vehicle.wantsPause state = base.wantsPause (part state)
  chooseSchedule : ∀ schedules state,
    (vehicle.chooseSchedule schedules state).map id part =
      base.chooseSchedule schedules (part state)
  continueCharging : ∀ state,
    (vehicle.continueCharging state).map id part = base.continueCharging (part state)
  storeContract : ∀ chain key state,
    (vehicle.storeContract chain key state).map id part = base.storeContract chain key (part state)
  currentDemand : ∀ state,
    (vehicle.currentDemand state).map id part = base.currentDemand (part state)

/-- Certificates and keys come from a part of the state as others do from the whole of theirs. -/
structure Credentials.Refines (part : ω → ν) (credentials : Credentials ω)
    (base : Credentials ν) : Prop where
  certificate : ∀ state slot,
    credentials.certificate state slot = base.certificate (part state) slot
  chain : ∀ state leaf subSlots,
    credentials.chain state leaf subSlots = base.chain (part state) leaf subSlots
  rootIds : ∀ state, credentials.rootIds state = base.rootIds (part state)
  commonName : ∀ state certificate,
    credentials.commonName state certificate = base.commonName (part state) certificate
  sign : ∀ state elements slot,
    credentials.sign state elements slot = base.sign (part state) elements slot
  verify : ∀ state signature elements leaf subCertificates root,
    credentials.verify state signature elements leaf subCertificates root =
      base.verify (part state) signature elements leaf subCertificates root
  decryptKey : ∀ state encrypted own peer,
    credentials.decryptKey state encrypted own peer =
      base.decryptKey (part state) encrypted own peer

/-- An equipment does with a part of its state what another one does. -/
structure Equipment.Refines (part : ω → ν) (equipment : Equipment ω) (base : Equipment ν) :
    Prop where
  vehicle : equipment.vehicle.Refines part base.vehicle
  credentials : equipment.credentials.Refines part base.credentials

namespace Turn

variable {α β : Type}

/-- How a turn comes out, with a part of what is on board. -/
def restrictResult (part : ω → ν) :
    EStateM.Result SessionError (Session ω) α → EStateM.Result SessionError (Session ν) α
  | .ok value after => .ok value (after.restrict part)
  | .error error after => .error error (after.restrict part)

/-- A turn does with a part of what is on board what another one does. -/
def Refines (part : ω → ν) (turn : Turn ω α) (base : Turn ν α) : Prop :=
  ∀ session, restrictResult part (turn session) = base (session.restrict part)

namespace Refines

/-! ### Parts of a turn -/

protected theorem bind {turn : Turn ω α} {base : Turn ν α} {next : α → Turn ω β}
    {baseNext : α → Turn ν β} (first : Refines part turn base)
    (second : ∀ value, Refines part (next value) (baseNext value)) :
    Refines part (turn >>= next) (base >>= baseNext) := by
  intro session
  have between := first session
  simp only [bind, EStateM.bind]
  cases result : turn session with
  | ok value middle =>
      rw [result] at between
      rw [← between]
      exact second value middle
  | error error middle =>
      rw [result] at between
      rw [← between]
      rfl

protected theorem map {turn : Turn ω α} {base : Turn ν α} (change : α → β)
    (refines : Refines part turn base) : Refines part (change <$> turn) (change <$> base) := by
  intro session
  have after := refines session
  simp only [Functor.map, EStateM.map]
  rw [← after]
  cases turn session <;> rfl

protected theorem ite {condition : Prop} [Decidable condition] {first second : Turn ω α}
    {baseFirst baseSecond : Turn ν α} (refinesFirst : Refines part first baseFirst)
    (refinesSecond : Refines part second baseSecond) :
    Refines part (if condition then first else second)
      (if condition then baseFirst else baseSecond) := by
  split
  · exact refinesFirst
  · exact refinesSecond

protected theorem pure (value : α) : Refines part (pure value) (pure value) :=
  fun _ => rfl

protected theorem context : Refines part context context :=
  fun _ => rfl

protected theorem fail (error : SessionError) : Refines part (fail (α := α) error) (fail error) :=
  fun _ => rfl

protected theorem send {awaited : Exchange} (request : Request) :
    Refines part (send awaited request) (send awaited request) :=
  fun _ => rfl

protected theorem update (change : Context → Context) :
    Refines part (update change) (update change) :=
  fun _ => rfl

protected theorem ask {question : ω → α} {base : ν → α}
    (same : ∀ state, question state = base (part state)) :
    Refines part (ask question) (ask base) :=
  fun session => congrArg (EStateM.Result.ok · (session.restrict part)) (same session.onboard)

protected theorem tryUpdate (change : Context → Except SessionError Context) :
    Refines part (tryUpdate change) (tryUpdate change) := by
  intro session
  simp only [tryUpdate, Session.restrict]
  cases change session.context <;> rfl

protected theorem consult (inspect : Context → Except SessionError α) :
    Refines part (consult inspect) (consult inspect) := by
  intro session
  simp only [consult, Session.restrict]
  cases inspect session.context <;> rfl

protected theorem alter (change : Context → Except SessionError α × Context) :
    Refines part (alter change) (alter change) := by
  intro session
  simp only [alter, Session.restrict]
  rcases change session.context with ⟨value | error, context⟩ <;> rfl

protected theorem act {action : ω → Except VehicleError α × ω}
    {base : ν → Except VehicleError α × ν}
    (same : ∀ state, (action state).map id part = base (part state)) :
    Refines part (act action) (act base) := by
  intro session
  simp only [act, Session.restrict, ← same]
  rcases action session.onboard with ⟨value | error, onboard⟩ <;> rfl

protected theorem choose {action : ω → α × ω} {base : ν → α × ν}
    (same : ∀ state, (action state).map id part = base (part state)) :
    Refines part (choose action) (choose base) := by
  intro session
  simp only [choose, Session.restrict, ← same]
  rfl

protected theorem useCredentials (activity : Activity) {use : ω → Except PkiError α}
    {base : ν → Except PkiError α} (same : ∀ state, use state = base (part state)) :
    Refines part (useCredentials activity use) (useCredentials activity base) := by
  intro session
  simp only [useCredentials, Session.restrict, ← same]
  cases use session.onboard <;> rfl

/-! ### Without the equipment -/

protected theorem nextDetailsOrSelection :
    Refines part nextDetailsOrSelection nextDetailsOrSelection := by
  refine Refines.context.bind fun context => ?_
  cases context.pendingDetails with
  | nil => exact Refines.send _
  | cons serviceId rest => exact (Refines.update _).bind fun _ => Refines.send _

protected theorem sessionSetup (sessionId : SessionId) (content : SessionSetupRes) :
    Refines part (sessionSetup sessionId content) (sessionSetup sessionId content) :=
  (Refines.tryUpdate _).bind fun _ => (Refines.tryUpdate _).bind fun _ => Refines.send _

protected theorem changePower (progress : ChargeProgress) :
    Refines part (changePower progress) (changePower progress) :=
  (Refines.consult _).bind fun _ => Refines.send _

protected theorem stopCharging (stop : SessionEnd) :
    Refines part (stopCharging stop) (stopCharging stop) :=
  (Refines.update _).bind fun _ => Refines.changePower _

protected theorem heed (notification : EvseNotification) {otherwise : Turn ω Step}
    {baseOtherwise : Turn ν Step} (refines : Refines part otherwise baseOtherwise) :
    Refines part (heed notification otherwise) (heed notification baseOtherwise) := by
  cases notification with
  | none => exact refines
  | stopCharging => exact Refines.stopCharging _
  | renegotiation => exact (Refines.update _).bind fun _ => Refines.changePower _

protected theorem sendAgain {awaited : Exchange} (now : Milliseconds) (request : Request) :
    Refines part (sendAgain now awaited request) (sendAgain now awaited request) :=
  (Refines.send _).bind fun _ => (Refines.alter _).bind fun _ => Refines.pure _

protected theorem sessionStop : Refines part sessionStop sessionStop :=
  Refines.context.bind fun _ => (Refines.update _).bind fun _ => Refines.pure _

/-! ### Certificates and keys -/

section Credentials

variable {credentials : Credentials ω} {baseCredentials : Credentials ν}
  (refines : credentials.Refines part baseCredentials)

include refines

protected theorem sendSigned [Json.Wire α] (slot : KeySlot) (content : α)
    {awaited : Exchange} (request : α → Request) :
    Refines part (sendSigned credentials slot content awaited request)
      (sendSigned baseCredentials slot content awaited request) :=
  (Refines.useCredentials _ fun state => refines.sign state _ _).bind fun _ =>
    (Refines.send _).bind fun _ => Refines.pure _

protected theorem presentContract :
    Refines part (presentContract credentials) (presentContract baseCredentials) :=
  (Refines.useCredentials _ fun state => refines.chain state _ _).bind fun _ =>
    (Refines.useCredentials _ fun state => refines.commonName state _).bind fun _ => Refines.send _

protected theorem requestContract :
    Refines part (requestContract credentials) (requestContract baseCredentials) :=
  (Refines.useCredentials _ fun state => refines.certificate state _).bind fun _ =>
    (Refines.useCredentials _ fun state => refines.rootIds state).bind fun _ =>
      Refines.sendSigned refines _ _ _

protected theorem verify (content : CertificateInstallationRes) (signature : Option Signature)
    (state : ω) :
    content.verify signature credentials state =
      content.verify signature baseCredentials (part state) := by
  unfold CertificateInstallationRes.verify
  simp only [refines.verify]

end Credentials

section Equipment

variable {equipment : Equipment ω} {base : Equipment ν} {now : Milliseconds}
  (refines : equipment.Refines part base)

include refines

/-! ### Setting up -/

protected theorem serviceDiscovery (content : ServiceDiscoveryRes) :
    Refines part (serviceDiscovery equipment content) (serviceDiscovery base content) := by
  unfold Turn.serviceDiscovery
  cases content.chargeService with
  | none => exact Refines.fail _
  | some chargeService =>
      refine Refines.context.bind fun context => (Refines.update _).bind fun _ => ?_
      refine (Refines.ask refines.vehicle.energyMode).bind fun ownMode => ?_
      refine Refines.ite (Refines.fail _) ((Refines.update _).bind fun _ => ?_)
      refine (Refines.ask refines.vehicle.certInstallNeeded).bind fun certInstallNeeded => ?_
      dsimp only
      split
      · refine Refines.ite ?_ Refines.nextDetailsOrSelection
        exact (Refines.update _).bind fun _ => Refines.nextDetailsOrSelection
      · exact Refines.nextDetailsOrSelection

protected theorem paymentServiceSelection :
    Refines part (paymentServiceSelection equipment) (paymentServiceSelection base) := by
  refine Refines.context.bind fun context => Refines.ite (Refines.send _) ?_
  refine (Refines.ask refines.vehicle.certInstallNeeded).bind fun certInstallNeeded => ?_
  exact Refines.ite (Refines.requestContract refines.credentials)
    (Refines.presentContract refines.credentials)

protected theorem certificateInstallation (signature : Option Signature)
    (content : CertificateInstallationRes) :
    Refines part (certificateInstallation equipment signature content)
      (certificateInstallation base signature content) := by
  have credentials := refines.credentials
  refine (Refines.useCredentials _ (Refines.verify credentials content signature)).bind fun _ => ?_
  refine (Refines.useCredentials _ fun state => credentials.decryptKey state _ _ _).bind ?_
  intro key
  refine (Refines.act (refines.vehicle.storeContract _ key)).bind fun _ => ?_
  exact (Refines.useCredentials _ fun state => credentials.commonName state _).bind fun _ =>
    Refines.send _

protected theorem paymentDetails (content : PaymentDetailsRes) :
    Refines part (paymentDetails equipment content) (paymentDetails base content) :=
  Refines.sendSigned refines.credentials _ _ _

/-! ### Leave to charge -/

protected theorem chargeParameterRequest :
    Refines part (chargeParameterRequest equipment) (chargeParameterRequest base) :=
  Refines.context.bind fun _ => (Refines.ask refines.vehicle.chargeParameters).bind fun _ =>
    Refines.pure _

protected theorem authorization (content : AuthorizationRes) :
    Refines part (authorization equipment now content) (authorization base now content) := by
  refine Refines.ite ?_ (Refines.sendAgain _ _)
  exact (Refines.update _).bind fun _ => (Refines.chargeParameterRequest refines).bind fun _ =>
    Refines.send _

protected theorem chargeParameterDiscovery (content : ChargeParameterDiscoveryRes) :
    Refines part (chargeParameterDiscovery equipment now content)
      (chargeParameterDiscovery base now content) := by
  refine Refines.ite ?_ ((Refines.chargeParameterRequest refines).bind fun _ =>
    Refines.sendAgain _ _)
  refine (Refines.update _).bind fun _ => ?_
  exact (Refines.act (refines.vehicle.chooseSchedule _)).bind fun _ =>
    (Refines.update _).bind fun _ => Refines.send _

/-! ### Rounds of charging -/

protected theorem demandCurrent : Refines part (demandCurrent equipment) (demandCurrent base) :=
  (Refines.act refines.vehicle.currentDemand).bind fun _ => Refines.send _

protected theorem nextRound : Refines part (nextRound equipment) (nextRound base) :=
  Refines.context.bind fun _ => Refines.ite (Refines.send _) (Refines.demandCurrent refines)

protected theorem powerDelivery : Refines part (powerDelivery equipment) (powerDelivery base) := by
  refine Refines.context.bind fun context => ?_
  cases context.stop with
  | some stop => exact Refines.send _
  | none =>
      refine Refines.ite ?_ (Refines.nextRound refines)
      exact (Refines.update _).bind fun _ =>
        (Refines.chargeParameterRequest refines).bind fun _ => Refines.send _

protected theorem continueOrStop {another : Turn ω Step} {baseAnother : Turn ν Step}
    (refinesAnother : Refines part another baseAnother) :
    Refines part (continueOrStop equipment another) (continueOrStop base baseAnother) := by
  refine (Refines.choose refines.vehicle.continueCharging).bind fun goesOn => ?_
  refine Refines.ite refinesAnother ?_
  exact (Refines.ask refines.vehicle.wantsPause).bind fun _ => Refines.stopCharging _

protected theorem afterRound (report : RoundReport) {another : Turn ω Step}
    {baseAnother : Turn ν Step} (refinesAnother : Refines part another baseAnother) :
    Refines part (afterRound equipment report another) (afterRound base report baseAnother) := by
  refine Refines.context.bind fun context => Refines.ite ?_ ?_
  · cases report.meterInfo with
    | none => exact Refines.fail _
    | some meterInfo =>
        exact Refines.context.bind fun _ => Refines.sendSigned refines.credentials _ _ _
  · exact Refines.heed _ (Refines.continueOrStop refines refinesAnother)

/-! ### Any response -/

protected theorem respond (header : Header) (response : Response) :
    Refines part (respond equipment now header response) (respond base now header response) := by
  cases response with
  | sessionSetup content => exact (Refines.sessionSetup _ content).map _
  | serviceDiscovery content => exact (Refines.serviceDiscovery refines content).map _
  | serviceDetail content => exact Refines.nextDetailsOrSelection.map _
  | paymentServiceSelection content => exact (Refines.paymentServiceSelection refines).map _
  | certificateInstallation content =>
      exact (Refines.certificateInstallation refines _ content).map _
  | paymentDetails content => exact (Refines.paymentDetails refines content).map _
  | authorization content => exact (Refines.authorization refines content).map _
  | chargeParameterDiscovery content =>
      exact (Refines.chargeParameterDiscovery refines content).map _
  | powerDelivery content => exact (Refines.powerDelivery refines).map _
  | chargingStatus content => exact (Refines.afterRound refines _ (Refines.send _)).map _
  | currentDemand content =>
      exact (Refines.afterRound refines _ (Refines.demandCurrent refines)).map _
  | meteringReceipt content => exact (Refines.heed _ (Refines.nextRound refines)).map _
  | sessionStop content => exact Refines.sessionStop.map _

protected theorem process (awaited : Exchange) (message : Message) :
    Refines part (process equipment now awaited message) (process base now awaited message) :=
  (Refines.consult _).bind fun _ => Refines.respond refines _ _

end Equipment
end Refines
end Turn

/-! ## Runs -/

/-- A passage with a part of what is on board. -/
def Passage.restrict (part : ω → ν) (passage : Passage ω) : Passage ν where
  step := passage.step
  sentAt := passage.sentAt
  session := passage.session.restrict part
  cancelAt := passage.cancelAt
  replies := passage.replies

/-- A run with a part of what is on board. -/
def Run.restrict (part : ω → ν) (run : Run ω) : Run ν where
  sent := run.sent
  finish := run.finish
  result := run.result
  session := run.session.restrict part

variable {equipment : Equipment ω} {base : Equipment ν}

namespace Passage

theorem result_restrict (refines : equipment.Refines part base) (passage : Passage ω) :
    Turn.restrictResult part (passage.result equipment) =
      (passage.restrict part).result base := by
  have received_eq : (passage.restrict part).received = passage.received := rfl
  rw [result, result, received_eq]
  cases passage.received with
  | error error => rfl
  | ok message => exact Turn.Refines.process refines _ message passage.session

theorem conclusion_restrict (refines : equipment.Refines part base) (passage : Passage ω) :
    (passage.conclusion equipment).restrict part =
      (passage.restrict part).conclusion base := by
  rw [conclusion, conclusion, ← result_restrict refines]
  rcases passage.result equipment with ⟨next | reason, after⟩ | ⟨error, after⟩ <;> rfl

end Passage

namespace Run

theorem passages_restrict (refines : equipment.Refines part base)
    (cancelAt : Option Milliseconds) (replies : List Reply) (now : Milliseconds) (step : Step)
    (session : Session ω) :
    (passages equipment cancelAt replies now step session).map (Passage.restrict part) =
      passages base cancelAt replies now step (session.restrict part) := by
  induction replies generalizing now step session with
  | nil => rfl
  | cons reply replies ih =>
      have same := Passage.result_restrict refines
        (Passage.begin cancelAt now step session (reply :: replies))
      have begin_eq :
          (Passage.begin cancelAt now step session (reply :: replies)).restrict part =
            Passage.begin cancelAt now step (session.restrict part) (reply :: replies) := rfl
      rw [begin_eq] at same
      simp only [passages, ← same]
      cases reply.fault? with
      | some fault => rfl
      | none =>
          rcases (Passage.begin cancelAt now step session (reply :: replies)).result equipment with
            ⟨next | reason, after⟩ | ⟨error, after⟩
          · exact congrArg (_ :: ·) (ih _ _ _)
          · rfl
          · rfl

/-- Equipment that does with a part of what is on board what another one does goes through the same
run. -/
theorem drive_restrict (refines : equipment.Refines part base)
    (cancelAt : Option Milliseconds) (replies : List Reply) (now : Milliseconds) (step : Step)
    (session : Session ω) [step.AwaitsAnswer] :
    (drive equipment cancelAt replies now step session).restrict part =
      drive base cancelAt replies now step (session.restrict part) := by
  have passages_eq := passages_restrict refines cancelAt replies now step session
  by_cases isNil : passages equipment cancelAt replies now step session = []
  · obtain ⟨fault, unsent⟩ := (passages_eq_nil_iff equipment cancelAt).mp isNil
    rw [drive_of_unsent equipment cancelAt unsent, drive_of_unsent base cancelAt unsent]
    rfl
  · have notNil : passages base cancelAt replies now step (session.restrict part) ≠ [] := by
      rw [← passages_eq]
      exact mt List.map_eq_nil_iff.mp isNil
    rw [drive_eq_getLast equipment cancelAt replies now step session isNil,
      drive_eq_getLast base cancelAt replies now step (session.restrict part) notNil]
    simp only [← passages_eq, List.getLast_map, List.map_map, ← Passage.conclusion_restrict refines]
    rfl

end Run
end PlugAndCharge
