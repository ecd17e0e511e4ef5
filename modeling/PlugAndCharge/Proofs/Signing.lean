import PlugAndCharge.Proofs.BigEndian
import PlugAndCharge.Proofs.Installation
import PlugAndCharge.Proofs.RoundTrip
import PlugAndCharge.Proofs.Sending

/-!
# Signed requests

Three requests are signed: the request for a contract certificate, with the key of the
manufacturer, and the answer to a challenge and the receipt of a meter reading, with the key of the
contract.  What is signed is the request as it is sent, so the receiver of the message can rebuild
the signed element from it and finds the signature to be by the owner of the stored key.
-/

namespace PlugAndCharge

open P256 (PrivateKey)

/-! ## Signatures that are created -/

namespace Ecdsa.Value

/-- Both numbers are in the range that a verifier reads. -/
def InRange (value : Value) : Prop :=
  0 < value.r ∧ value.r < P256.order ∧ 0 < value.s ∧ value.s < P256.order

instance (value : Value) : Decidable value.InRange :=
  inferInstanceAs (Decidable (_ ∧ _ ∧ _ ∧ _))

theorem ofOctets?_toOctets {value : Value} (inRange : value.InRange) :
    ofOctets? value.toOctets = some value := by
  have order_lt : P256.order < 256 ^ 32 := by decide
  obtain ⟨r_pos, r_lt, s_pos, s_lt⟩ := inRange
  have r_eq : Octets.toNat (value.toOctets.take 32) = value.r := by
    rw [toOctets, List.take_left' (Octets.length_ofNat 32 value.r)]
    exact Octets.toNat_ofNat_of_lt (r_lt.trans order_lt)
  have s_eq : Octets.toNat (value.toOctets.drop 32) = value.s := by
    rw [toOctets, List.drop_left' (Octets.length_ofNat 32 value.r)]
    exact Octets.toNat_ofNat_of_lt (s_lt.trans order_lt)
  have length_eq : value.toOctets.length = 64 := by simp [toOctets, Octets.length_ofNat]
  rw [ofOctets?, if_pos length_eq, r_eq, s_eq, ofNats?, if_pos ⟨r_pos, r_lt, s_pos, s_lt⟩]

end Ecdsa.Value

/-- What a key signs is in range, and verified with the public half of the key. -/
def Suite.Accepts (suite : Suite) (key : PrivateKey) (octets : Octets) : Prop :=
  (suite.sign key octets).InRange ∧
    suite.verify (suite.publicPoint key) octets (suite.sign key octets) = true

namespace Signature

variable {suite : Suite} {element : SignedElement} {elements others : List SignedElement}
  {key : PrivateKey}

theorem uri_referenceTo_inj {first second : SignedElement} :
    (referenceTo suite first).uri = (referenceTo suite second).uri ↔ first.id = second.id := by
  simp [referenceTo]

/-- Among references to elements without an id in common, the one to an element is found by its
id. -/
theorem find?_referenceTo (distinct : (elements.map SignedElement.id).Nodup)
    (isElement : element ∈ elements) :
    ((elements.map (referenceTo suite)).find? fun reference =>
      reference.uri == (referenceTo suite element).uri) = some (referenceTo suite element) := by
  obtain ⟨reference, found⟩ : ∃ reference, ((elements.map (referenceTo suite)).find?
      fun reference => reference.uri == (referenceTo suite element).uri) = some reference := by
    refine Option.isSome_iff_exists.mp (List.find?_isSome.mpr ?_)
    exact ⟨_, List.mem_map_of_mem isElement, BEq.rfl⟩
  obtain ⟨other, isOther, rfl⟩ := List.mem_map.mp (List.mem_of_find?_eq_some found)
  have id_eq : other.id = element.id := uri_referenceTo_inj.mp (by simpa using List.find?_some found)
  rw [found, List.inj_on_of_nodup_map distinct isOther isElement id_eq]

/-- A signature of elements without an id in common is verified just for as many elements, each of
which has the reference of a signed one. -/
theorem verify_create_iff
    (accepts : suite.Accepts key (Json.Wire.write (infoFor suite elements)))
    (distinct : (elements.map SignedElement.id).Nodup) :
    verify suite (create suite elements key) others (suite.publicPoint key) = .ok () ↔
      others.length = elements.length ∧
        ∀ other ∈ others, ∃ element ∈ elements,
          referenceTo suite element = referenceTo suite other := by
  have isBy : (create suite elements key).IsBy suite (suite.publicPoint key) :=
    ⟨rfl, _, Ecdsa.Value.ofOctets?_toOctets accepts.1, accepts.2⟩
  have references_eq :
      (create suite elements key).signedInfo.references = elements.map (referenceTo suite) := rfl
  rw [verify_eq_ok, references_eq, List.length_map]
  constructor
  · rintro ⟨-, length_eq, checked⟩
    refine ⟨length_eq.symm, fun other isOther => ?_⟩
    exact List.mem_map.mp (List.mem_of_find?_eq_some (checkElement_eq_ok.mp (checked other isOther)))
  · rintro ⟨length_eq, covered⟩
    refine ⟨isBy, length_eq.symm, fun other isOther => checkElement_eq_ok.mpr ?_⟩
    obtain ⟨element, isElement, reference_eq⟩ := covered other isOther
    rw [← reference_eq]
    exact find?_referenceTo distinct isElement

/-- The signature of one element is verified for this element. -/
theorem verify_create (accepts : suite.Accepts key (Json.Wire.write (infoFor suite [element]))) :
    verify suite (create suite [element] key) [element] (suite.publicPoint key) = .ok () := by
  refine (verify_create_iff accepts (List.nodup_singleton _)).mpr ⟨rfl, fun other isOther => ?_⟩
  exact ⟨other, isOther, rfl⟩

end Signature

theorem Directory.sign_eq_ok {suite : Suite} {directory : Directory}
    {elements : List SignedElement} {slot : KeySlot} {signature : Signature} :
    directory.sign suite elements slot = .ok signature ↔
      ∃ key, directory.loadKey suite slot = .ok key ∧
        signature = Signature.create suite elements key := by
  simp only [Directory.sign, Except.bind_eq_ok]
  simp [pure, Except.pure, eq_comm]

/-- The receiver of a message finds the signed element of its request signed by the owner of a public
key. -/
def Message.VerifiesUnder (suite : Suite) (point : P256.Point) (message : Message) : Prop :=
  ∃ request element slot signature, message.body = .request request ∧
    request.signable? = some (element, slot) ∧ message.header.signature = some signature ∧
    signature.verify suite [element] point = .ok ()

/-- A request that a stored key signs is verified under the public half of the key. -/
theorem Step.IsSigned.verifiesUnder {ω : Type} {suite : Suite} {directory : ω → Directory}
    {state : ω} {step : Step} {element : SignedElement} {slot : KeySlot} {key : PrivateKey}
    (isSigned : step.IsSigned (Directory.credentials suite directory) state)
    (signable : step.request.signable? = some (element, slot))
    (stored : (directory state).loadKey suite slot = .ok key)
    (accepts : suite.Accepts key (Json.Wire.write (Signature.infoFor suite [element]))) :
    step.message.VerifiesUnder suite (suite.publicPoint key) := by
  simp only [Step.IsSigned, signable] at isSigned
  obtain ⟨signature, signs, signature_eq⟩ := isSigned
  obtain ⟨loaded, isLoaded, rfl⟩ := Directory.sign_eq_ok.mp signs
  obtain rfl : key = loaded := Except.ok.inj (stored.symm.trans isLoaded)
  exact ⟨step.request, element, slot, _, rfl, signable, signature_eq,
    Signature.verify_create accepts⟩

/-! ## Runs -/

namespace Run

variable {ω : Type}

/-- Every signed request is verified by its receiver.  The requests of a run are the sent ones, and
a message carries a signature just if its request has an element that is signed.  Written and read
back, the message holds the signature and a request whose signed element the signature is verified
for, under the public half of the key that is stored when the message is sent.  This asks of the
suite that it accepts what it signs. -/
theorem signed_requests_verify (suite : Suite) (accepts : ∀ key octets, suite.Accepts key octets)
    (vehicle : Vehicle ω) (directory : ω → Directory) (cancelAt : Option Milliseconds)
    (replies : List Reply) (session : Session ω) :
    let equipment : Equipment ω := ⟨vehicle, Directory.credentials suite directory⟩
    let passages := passages equipment cancelAt replies 0 (Step.first session.context) session
    (start equipment cancelAt replies session).sent = passages.map Passage.sending ∧
      ∀ passage ∈ passages,
        (passage.step.message.header.signature = none ↔
          passage.step.request.signable? = none) ∧
        ∀ signature, passage.step.message.header.signature = some signature →
          ∃ received request element slot key,
            Message.decode passage.step.message.encode = .ok received ∧
              received.header.signature = some signature ∧
              received.body = .request request ∧
              request.signable? = some (element, slot) ∧
              (directory passage.session.onboard).loadKey suite slot = .ok key ∧
              signature.verify suite [element] (suite.publicPoint key) = .ok () := by
  intro equipment passages
  refine ⟨sent_drive equipment cancelAt replies _ _ session, fun passage isPassage => ?_⟩
  have isSigned := (sends_passages equipment cancelAt replies session passage isPassage).isSigned
  refine ⟨isSigned.signature_eq_none_iff, fun signature carried => ?_⟩
  obtain ⟨element, slot, signable, signs⟩ := isSigned.exists_signable carried
  obtain ⟨key, loaded, rfl⟩ := Directory.sign_eq_ok.mp signs
  exact ⟨passage.step.message, passage.step.request, element, slot, key, Message.decode_encode _,
    carried, rfl, signable, loaded, Signature.verify_create (accepts key _)⟩

end Run

/-! ## A request for a contract certificate -/

namespace Suite

instance (suite : Suite) (key : PrivateKey) (octets : Octets) :
    Decidable (suite.Accepts key octets) :=
  inferInstanceAs (Decidable (_ ∧ _))

/-- The standard suite, with one more signature that is always accepted.  It stands in for what the
standard suite signs but does not accept. -/
def selfAccepting : Suite :=
  { Suite.standard with
    sign := fun key octets =>
      if Suite.standard.Accepts key octets then Suite.standard.sign key octets else ⟨1, 1⟩
    verify := fun point octets value =>
      decide (value = ⟨1, 1⟩) || Suite.standard.verify point octets value }

theorem sign_selfAccepting {key : PrivateKey} {octets : Octets}
    (accepts : Suite.standard.Accepts key octets) :
    selfAccepting.sign key octets = Suite.standard.sign key octets :=
  if_pos accepts

theorem selfAccepting_accepts (key : PrivateKey) (octets : Octets) :
    selfAccepting.Accepts key octets := by
  by_cases accepts : Suite.standard.Accepts key octets
  · rw [Accepts, sign_selfAccepting accepts]
    exact ⟨accepts.1, (Bool.or_eq_true _ _).mpr (.inr accepts.2)⟩
  · have sign_eq : selfAccepting.sign key octets = ⟨1, 1⟩ := if_neg accepts
    rw [Accepts, sign_eq]
    exact ⟨by decide, rfl⟩

end Suite

namespace Scenario

/-- A protected session up to the request for a contract certificate, which is signed with the key
of the manufacturer. -/
def contractRequested : Scenario :=
  { ofResponses .acThreePhaseCore
      [.sessionSetup { responseCode := .ok, evseId := "", timeStamp := none },
        .serviceDiscovery {
          responseCode := .ok
          paymentOptions := [.contract]
          chargeService := some {
            serviceId := 1
            serviceName := none
            serviceCategory := .evCharging
            freeService := true
            supportedModes := [.acThreePhaseCore] }
          serviceList := none },
        .paymentServiceSelection { responseCode := .ok }] with
    suite := Suite.selfAccepting
    credentials := Directory.credentials Suite.selfAccepting Onboard.directory
    onboard :=
      { simulator :=
          Simulator.start { VehicleSettings.standard with certInstallNeeded := true } false
        directory :=
          { AcceptedDelivery.directory with
            files := (CertificateSlot.oemLeaf.path, [0x30, 0x00]) ::
              AcceptedDelivery.directory.files } } }

/-- The request for a contract certificate. -/
def contractRequest : CertificateInstallationReq where
  id := Turn.signedElementId
  oemProvisioningCert := [0x30, 0x00]
  rootCertificateIds := [{ issuerName := "CN=R", serialNumber := [1] }]

/-- The element of the request that is signed. -/
def contractRequestElement : SignedElement :=
  .ofValue Turn.signedElementId contractRequest

/-- The standard suite accepts what it signs for the request. -/
theorem accepts_contractRequest :
    Suite.standard.Accepts AcceptedDelivery.commonKey
      (Json.Wire.write (Signature.infoFor Suite.standard [contractRequestElement])) := by
  decide +kernel

theorem exists_contractRequest :
    ∃ passage ∈ contractRequested.passages,
      passage.step.request = .certificateInstallation contractRequest ∧
        passage.step.message.header.signature ≠ none ∧
        (passage.session.onboard.directory.loadKey Suite.selfAccepting .oemLeaf).toOption =
          some AcceptedDelivery.commonKey := by
  decide +kernel

/-- The request for a contract certificate is sent with a signature that is verified for it.  The
suite signs it as the standard suite does. -/
theorem contractRequest_verifies :
    (∀ key octets, Suite.selfAccepting.Accepts key octets) ∧
      Suite.standard.Accepts AcceptedDelivery.commonKey
        (Json.Wire.write (Signature.infoFor Suite.standard [contractRequestElement])) ∧
      ∃ sending ∈ contractRequested.run.sent, ∃ received signature,
        Message.decode sending.2.encode = .ok received ∧
          received.header.signature = some signature ∧
          received.body = .request (.certificateInstallation contractRequest) ∧
          signature.verify Suite.selfAccepting [contractRequestElement]
            (Suite.selfAccepting.publicPoint AcceptedDelivery.commonKey) = .ok () := by
  refine ⟨Suite.selfAccepting_accepts, accepts_contractRequest, ?_⟩
  obtain ⟨sent, verified⟩ := Run.signed_requests_verify Suite.selfAccepting
    Suite.selfAccepting_accepts (Onboard.vehicle Suite.selfAccepting) Onboard.directory none
    contractRequested.replies contractRequested.session
  obtain ⟨passage, isPassage, request_eq, isSigned, stored⟩ := exists_contractRequest
  obtain ⟨signature, carried⟩ := Option.ne_none_iff_exists'.mp isSigned
  obtain ⟨received, request, element, slot, key, read, has, body, signable, loaded, accepted⟩ :=
    (verified passage isPassage).2 signature carried
  obtain rfl : passage.step.message = received :=
    Except.ok.inj ((Message.decode_encode _).symm.trans read)
  obtain rfl : passage.step.request = request := Body.request.inj body
  rw [request_eq] at body signable
  obtain ⟨rfl, rfl⟩ : contractRequestElement = element ∧ KeySlot.oemLeaf = slot :=
    Prod.mk.inj (Option.some.inj signable)
  obtain rfl : key = AcceptedDelivery.commonKey := by
    simpa [loaded, Except.toOption] using stored
  refine ⟨passage.sending, ?_, passage.step.message, signature, read, has, body, accepted⟩
  rw [contractRequested.sent_run]
  exact List.mem_map_of_mem isPassage

end Scenario
end PlugAndCharge
