import Mathlib.Logic.Relation
import PlugAndCharge.Proofs.Change

/-!
# What responses change

Every response changes the context step by step, whether it is answered or ends the session with a
failure.  So what the single changes leave as it was stays so through a whole response.
-/

namespace PlugAndCharge

namespace Turn

variable {ω α β : Type} {equipment : Equipment ω} {now : Milliseconds} {awaited : Exchange}

open Relation (ReflTransGen)

/-- A turn that began with a context has changed it step by step, even if it has failed; and the
record has lapsed during the setup only, or in a round for want of a schedule. -/
def Evolved (awaited : Exchange) (before : Context) :
    EStateM.Result SessionError (Session ω) α → Prop
  | .ok _ after => ReflTransGen (Context.Change awaited) before after.context
  | .error error after =>
    ReflTransGen (Context.Change awaited) before after.context ∧
      (error.isLapse = true → awaited = .sessionSetup ∨
        awaited.isRound = true ∧ after.context.schedule = none)

/-- Wherever a turn begins, it changes the context step by step. -/
def Evolves (awaited : Exchange) (turn : Turn ω α) : Prop :=
  ∀ session, Evolved awaited session.context (turn session)

theorem Evolved.changes {before : Context} {result : EStateM.Result SessionError (Session ω) α}
    (evolved : Evolved awaited before result) :
    ReflTransGen (Context.Change awaited) before (sessionOf result).context := by
  cases result with
  | ok value after => exact evolved
  | error error after => exact evolved.1

theorem Evolved.trans {before between : Context}
    {result : EStateM.Result SessionError (Session ω) α}
    (changes : ReflTransGen (Context.Change awaited) before between)
    (evolved : Evolved awaited between result) : Evolved awaited before result := by
  cases result with
  | ok value after => exact ReflTransGen.trans changes evolved
  | error error after => exact ⟨changes.trans evolved.1, evolved.2⟩

theorem Evolved.of_notLapse {session after : Session ω} {error : SessionError}
    (changes : ReflTransGen (Context.Change awaited) session.context after.context)
    (notLapse : error.isLapse = false) :
    Evolved awaited session.context (.error error after : EStateM.Result _ _ α) :=
  ⟨changes, fun isLapse => by simp [notLapse] at isLapse⟩

namespace Evolves

/-! ### Parts of a turn -/

protected theorem bind {turn : Turn ω α} {next : α → Turn ω β} (first : Evolves awaited turn)
    (second : ∀ value, Evolves awaited (next value)) : Evolves awaited (turn >>= next) := by
  intro session
  have evolved := first session
  simp only [bind, EStateM.bind]
  cases result : turn session with
  | ok value between =>
      rw [result] at evolved
      exact Evolved.trans evolved (second value between)
  | error error between =>
      rw [result] at evolved
      exact evolved

protected theorem map {turn : Turn ω α} {change : α → β} (evolves : Evolves awaited turn) :
    Evolves awaited (change <$> turn) := by
  intro session
  have evolved := evolves session
  simp only [Functor.map, EStateM.map]
  cases result : turn session with
  | ok value after =>
      rw [result] at evolved
      exact evolved
  | error error after =>
      rw [result] at evolved
      exact evolved

protected theorem ite {condition : Prop} [Decidable condition] {first second : Turn ω α}
    (evolvesFirst : Evolves awaited first) (evolvesSecond : Evolves awaited second) :
    Evolves awaited (if condition then first else second) := by
  split
  · exact evolvesFirst
  · exact evolvesSecond

protected theorem pure (value : α) : Evolves awaited (pure value : Turn ω α) :=
  fun _ => ReflTransGen.refl

protected theorem context : Evolves awaited (context (ω := ω)) :=
  fun _ => ReflTransGen.refl

protected theorem ask (question : ω → α) : Evolves awaited (ask question) :=
  fun _ => ReflTransGen.refl

protected theorem send {opened : Exchange} (request : Request) :
    Evolves awaited (send (ω := ω) opened request) :=
  fun _ => ReflTransGen.refl

protected theorem choose (action : ω → α × ω) : Evolves awaited (choose action) :=
  fun _ => ReflTransGen.refl

protected theorem fail {error : SessionError} (notLapse : error.isLapse = false) :
    Evolves awaited (fail (ω := ω) (α := α) error) :=
  fun _ => .of_notLapse .refl notLapse

protected theorem update {change : Context → Context}
    (changes : ∀ context, Context.Change awaited context (change context)) :
    Evolves awaited (update (ω := ω) change) :=
  fun session => ReflTransGen.single (changes session.context)

protected theorem tryUpdate {change : Context → Except SessionError Context}
    (changes : ∀ context changed, change context = .ok changed →
      Context.Change .sessionSetup context changed) :
    Evolves .sessionSetup (tryUpdate (ω := ω) change) := by
  intro session
  unfold tryUpdate
  cases result : change session.context with
  | ok changed => exact ReflTransGen.single (changes _ _ result)
  | error error => exact ⟨.refl, fun _ => .inl rfl⟩

protected theorem selectedSchedule (isRound : awaited.isRound = true) :
    Evolves awaited (consult (ω := ω) Context.selectedSchedule) := by
  intro session
  unfold consult Context.selectedSchedule
  cases chosen : session.context.schedule with
  | some schedule => exact ReflTransGen.refl
  | none => exact ⟨.refl, fun _ => .inr ⟨isRound, chosen⟩⟩

protected theorem alter {change : Context → Except SessionError α × Context}
    (changes : ∀ context, Context.Change awaited context (change context).2)
    (notLapse : ∀ context error, (change context).1 = .error error → error.isLapse = false) :
    Evolves awaited (alter (ω := ω) change) := by
  intro session
  have changed := changes session.context
  have failed := notLapse session.context
  unfold alter
  rcases altered : change session.context with ⟨result, context⟩
  rw [altered] at changed failed
  cases result with
  | ok value => exact ReflTransGen.single changed
  | error error => exact .of_notLapse (.single changed) (failed error rfl)

protected theorem act (action : ω → Except VehicleError α × ω) : Evolves awaited (act action) := by
  intro session
  unfold act
  rcases action session.onboard with ⟨result, onboard⟩
  cases result with
  | ok value => exact ReflTransGen.refl
  | error error => exact .of_notLapse .refl rfl

protected theorem useCredentials (activity : Activity) (use : ω → Except PkiError α) :
    Evolves awaited (useCredentials activity use) := by
  intro session
  unfold useCredentials
  cases use session.onboard with
  | ok value => exact ReflTransGen.refl
  | error error => exact .of_notLapse .refl (SessionError.isLapse_ofPki _ _)

protected theorem sendSigned [Json.Wire α] (credentials : Credentials ω) (slot : KeySlot)
    (content : α) {opened : Exchange} (request : α → Request) :
    Evolves awaited (sendSigned credentials slot content opened request) :=
  (Evolves.useCredentials _ _).bind fun _ => (Evolves.send _).bind fun _ => Evolves.pure _

/-! ### Setting up -/

protected theorem sessionSetup (sessionId : SessionId) (content : SessionSetupRes) :
    Evolves .sessionSetup (sessionSetup (ω := ω) sessionId content) := by
  refine (Evolves.tryUpdate fun context changed assigned => ?_).bind fun _ =>
    (Evolves.tryUpdate fun context changed assigned => ?_).bind fun _ => Evolves.send _
  · obtain ⟨unset, rfl⟩ := Context.assignSessionId_eq_ok.mp assigned
    exact .sessionId sessionId rfl unset
  · obtain ⟨unset, rfl⟩ := Context.assignEvseId_eq_ok.mp assigned
    exact .evseId content.evseId rfl unset

protected theorem nextDetailsOrSelection :
    Evolves awaited (nextDetailsOrSelection (ω := ω)) := by
  refine Evolves.context.bind fun context => ?_
  cases context.pendingDetails with
  | nil => exact Evolves.send _
  | cons serviceId rest =>
      exact (Evolves.update fun _ => .pendingDetails rest).bind fun _ => Evolves.send _

protected theorem serviceDiscovery (content : ServiceDiscoveryRes) :
    Evolves .serviceDiscovery (serviceDiscovery equipment content) := by
  unfold Turn.serviceDiscovery
  cases content.chargeService with
  | none => exact Evolves.fail rfl
  | some chargeService =>
      refine Evolves.context.bind fun context => ?_
      refine (Evolves.update fun _ => .resume rfl).bind fun _ => ?_
      refine (Evolves.ask _).bind fun ownMode => Evolves.ite (Evolves.fail rfl) ?_
      refine (Evolves.update fun _ => .settle _ _ _ rfl).bind fun _ => ?_
      refine (Evolves.ask _).bind fun certInstallNeeded => ?_
      dsimp only
      split
      · refine Evolves.ite ?_ Evolves.nextDetailsOrSelection
        exact (Evolves.update fun _ => .selectWithDetails _).bind fun _ =>
          Evolves.nextDetailsOrSelection
      · exact Evolves.nextDetailsOrSelection

protected theorem paymentServiceSelection :
    Evolves awaited (paymentServiceSelection equipment) := by
  refine Evolves.context.bind fun context => Evolves.ite (Evolves.send _) ?_
  refine (Evolves.ask _).bind fun certInstallNeeded => Evolves.ite ?_ ?_
  · exact (Evolves.useCredentials _ _).bind fun _ => (Evolves.useCredentials _ _).bind fun _ =>
      Evolves.sendSigned _ _ _ _
  · exact (Evolves.useCredentials _ _).bind fun _ => (Evolves.useCredentials _ _).bind fun _ =>
      Evolves.send _

/-! ### Contracts -/

protected theorem certificateInstallation (signature : Option Signature)
    (content : CertificateInstallationRes) :
    Evolves awaited (certificateInstallation equipment signature content) :=
  (Evolves.useCredentials _ _).bind fun _ => (Evolves.useCredentials _ _).bind fun _ =>
    (Evolves.act _).bind fun _ => (Evolves.useCredentials _ _).bind fun _ => Evolves.send _

/-! ### Leave to charge -/

protected theorem chargeParameterRequest :
    Evolves awaited (chargeParameterRequest equipment) :=
  Evolves.context.bind fun _ => (Evolves.ask _).bind fun _ => Evolves.pure _

protected theorem sendAgain {opened : Exchange} (request : Request) :
    Evolves awaited (sendAgain (ω := ω) now opened request) :=
  (Evolves.send _).bind fun _ =>
    (Evolves.alter (fun _ => Context.change_noteOngoing)
      fun _ _ => Context.isLapse_of_noteOngoing).bind fun _ => Evolves.pure _

protected theorem authorization (content : AuthorizationRes) :
    Evolves awaited (authorization equipment now content) := by
  refine Evolves.ite ?_ (Evolves.sendAgain _)
  exact (Evolves.update fun _ => .ongoingSince none).bind fun _ =>
    Evolves.chargeParameterRequest.bind fun _ => Evolves.send _

protected theorem chargeParameterDiscovery (content : ChargeParameterDiscoveryRes) :
    Evolves .chargeParameterDiscovery (chargeParameterDiscovery equipment now content) := by
  refine Evolves.ite ?_ (Evolves.chargeParameterRequest.bind fun _ => Evolves.sendAgain _)
  exact (Evolves.update fun _ => .ongoingSince none).bind fun _ => (Evolves.act _).bind fun _ =>
    (Evolves.update fun _ => .schedule _ rfl).bind fun _ => Evolves.send _

/-! ### Rounds of charging -/

protected theorem demandCurrent : Evolves awaited (demandCurrent equipment) :=
  (Evolves.act _).bind fun _ => Evolves.send _

protected theorem nextRound : Evolves awaited (nextRound equipment) :=
  Evolves.context.bind fun _ => Evolves.ite (Evolves.send _) Evolves.demandCurrent

protected theorem changePower (isRound : awaited.isRound = true) (progress : ChargeProgress) :
    Evolves awaited (changePower (ω := ω) progress) :=
  (Evolves.selectedSchedule isRound).bind fun _ => Evolves.send _

protected theorem stopCharging (isRound : awaited.isRound = true) (stop : SessionEnd) :
    Evolves awaited (stopCharging (ω := ω) stop) :=
  (Evolves.update fun _ => .stop stop).bind fun _ => Evolves.changePower isRound _

protected theorem heed (isRound : awaited.isRound = true) (notification : EvseNotification)
    {otherwise : Turn ω Step} (evolves : Evolves awaited otherwise) :
    Evolves awaited (heed notification otherwise) := by
  cases notification with
  | none => exact evolves
  | stopCharging => exact Evolves.stopCharging isRound _
  | renegotiation =>
      exact (Evolves.update fun _ => .isRenegotiating true).bind fun _ =>
        Evolves.changePower isRound _

protected theorem afterRound (isRound : awaited.isRound = true) (report : RoundReport)
    {another : Turn ω Step} (evolves : Evolves awaited another) :
    Evolves awaited (afterRound equipment report another) := by
  refine Evolves.context.bind fun context => Evolves.ite ?_ (Evolves.heed isRound _ ?_)
  · cases report.meterInfo with
    | none => exact Evolves.fail rfl
    | some meterInfo => exact Evolves.context.bind fun _ => Evolves.sendSigned _ _ _ _
  · refine (Evolves.choose _).bind fun goesOn => Evolves.ite evolves ?_
    exact (Evolves.ask _).bind fun _ => Evolves.stopCharging isRound _

protected theorem powerDelivery : Evolves awaited (powerDelivery equipment) := by
  refine Evolves.context.bind fun context => ?_
  cases context.stop with
  | some stop => exact Evolves.send _
  | none =>
      refine Evolves.ite ?_ Evolves.nextRound
      exact (Evolves.update fun _ => .isRenegotiating false).bind fun _ =>
        Evolves.chargeParameterRequest.bind fun _ => Evolves.send _

protected theorem sessionStop : Evolves awaited (sessionStop (ω := ω)) :=
  Evolves.context.bind fun _ => (Evolves.update fun _ => .stopReason _).bind fun _ =>
    Evolves.pure _

/-! ### Any response -/

/-- Every response changes the context as the exchange allows that it belongs to. -/
protected theorem respond {header : Header} (response : Response) :
    Evolves response.exchange (respond equipment now header response) := by
  cases response with
  | sessionSetup _ => exact (Evolves.sessionSetup _ _).map
  | serviceDiscovery _ => exact (Evolves.serviceDiscovery _).map
  | serviceDetail _ => exact Evolves.nextDetailsOrSelection.map
  | paymentServiceSelection _ => exact Evolves.paymentServiceSelection.map
  | certificateInstallation _ => exact (Evolves.certificateInstallation _ _).map
  | paymentDetails _ => exact (Evolves.sendSigned _ _ _ _).map
  | authorization _ => exact (Evolves.authorization _).map
  | chargeParameterDiscovery _ => exact (Evolves.chargeParameterDiscovery _).map
  | powerDelivery _ => exact Evolves.powerDelivery.map
  | chargingStatus _ => exact (Evolves.afterRound rfl _ (Evolves.send _)).map
  | currentDemand _ => exact (Evolves.afterRound rfl _ Evolves.demandCurrent).map
  | meteringReceipt _ => exact (Evolves.heed rfl _ Evolves.nextRound).map
  | sessionStop _ => exact Evolves.sessionStop.map

/-- Every message changes the context as the awaited exchange allows. -/
protected theorem process (awaited : Exchange) (message : Message) :
    Evolves awaited (process equipment now awaited message) := by
  intro session
  simp only [process, bind, EStateM.bind, consult]
  cases validated : session.context.validate awaited message with
  | error error =>
      have precedes := Context.precedesResponse_of_validate validated
      exact .of_notLapse .refl (SessionError.isLapse_of_precedesResponse precedes)
  | ok response =>
      obtain ⟨-, exchange_eq, -⟩ := Context.validate_eq_ok.mp validated
      exact exchange_eq ▸ Evolves.respond response session

/-! ### What is left as it was -/

/-- What no change touches is kept. -/
theorem keeps {γ : Type} {view : Context → γ} {turn : Turn ω α} (evolves : Evolves awaited turn)
    (same : ∀ before after, Context.Change awaited before after → view after = view before) :
    Keeps view turn := by
  intro session
  have changes := (evolves session).changes
  generalize (sessionOf (turn session)).context = after at changes
  induction changes with
  | refl => rfl
  | tail _ change ih => exact (same _ _ change).trans ih

theorem lasts {turn : Turn ω α} (evolves : Evolves awaited turn) (session : Session ω) :
    session.context.Lasts (sessionOf (turn session)).context := by
  have changes := (evolves session).changes
  generalize (sessionOf (turn session)).context = after at changes
  induction changes with
  | refl => exact Context.Lasts.refl _
  | tail _ change ih => exact ih.trans change.lasts

end Evolves

namespace Keeps

protected theorem nextDetailsOrSelection :
    Keeps Context.settlement (nextDetailsOrSelection (ω := ω)) := by
  have evolves : Evolves .serviceDetail (Turn.nextDetailsOrSelection (ω := ω)) :=
    Evolves.nextDetailsOrSelection
  exact evolves.keeps fun _ _ change => change.settlement_eq nofun

/-- No response but the offer of services changes what the session has settled on. -/
protected theorem respond {header : Header} {response : Response}
    (notOffer : response.exchange ≠ .serviceDiscovery) :
    Keeps Context.settlement (respond equipment now header response) :=
  (Evolves.respond response).keeps fun _ _ change => change.settlement_eq notOffer

/-- No message changes what the session was begun with. -/
protected theorem process (awaited : Exchange) (message : Message) :
    Keeps Context.terms (process equipment now awaited message) :=
  (Evolves.process awaited message).keeps fun _ _ change => change.terms_eq

end Keeps

/-- While anything but an offer of services is awaited, no message changes what the session has
settled on. -/
theorem settlement_process {awaited : Exchange} (notOffer : awaited ≠ .serviceDiscovery)
    (message : Message) (session : Session ω) :
    (sessionOf (process equipment now awaited message session)).context.settlement =
      session.context.settlement :=
  (Evolves.process awaited message).keeps (fun _ _ change => change.settlement_eq notOffer) session

end Turn
end PlugAndCharge
