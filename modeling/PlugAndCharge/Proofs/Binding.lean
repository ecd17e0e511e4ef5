import PlugAndCharge.Proofs.Signing

/-!
# What a signature is bound to

The written form of a value tells it from every other value of its type, down to the members that it
lacks and the elements of its lists.  So a signature that is accepted for a value is accepted for no
other value of the type, unless the digests of their written forms collide.
-/

namespace PlugAndCharge

open P256 (Point)

/-! ## Signed values -/

/-- The types of what is signed in a session: three requests, and the four parts of a delivered
contract. -/
inductive SignableType where
  | certificateInstallationReq
  | authorizationReq
  | meteringReceiptReq
  | certificateChain
  | encryptedPrivateKey
  | dhPublicKey
  | emaid
  deriving DecidableEq, Repr

namespace SignableType

/-- The values of a type. -/
def Value : SignableType → Type
  | .certificateInstallationReq => CertificateInstallationReq
  | .authorizationReq => AuthorizationReq
  | .meteringReceiptReq => MeteringReceiptReq
  | .certificateChain => CertificateChain
  | .encryptedPrivateKey => EncryptedPrivateKey
  | .dhPublicKey => DhPublicKey
  | .emaid => Emaid

instance : (type : SignableType) → Json.Wire type.Value
  | .certificateInstallationReq => inferInstanceAs (Json.Wire CertificateInstallationReq)
  | .authorizationReq => inferInstanceAs (Json.Wire AuthorizationReq)
  | .meteringReceiptReq => inferInstanceAs (Json.Wire MeteringReceiptReq)
  | .certificateChain => inferInstanceAs (Json.Wire CertificateChain)
  | .encryptedPrivateKey => inferInstanceAs (Json.Wire EncryptedPrivateKey)
  | .dhPublicKey => inferInstanceAs (Json.Wire DhPublicKey)
  | .emaid => inferInstanceAs (Json.Wire Emaid)

instance (type : SignableType) : Json.LawfulWire type.Value := by
  cases type with
  | certificateInstallationReq => exact inferInstanceAs (Json.LawfulWire CertificateInstallationReq)
  | authorizationReq => exact inferInstanceAs (Json.LawfulWire AuthorizationReq)
  | meteringReceiptReq => exact inferInstanceAs (Json.LawfulWire MeteringReceiptReq)
  | certificateChain => exact inferInstanceAs (Json.LawfulWire CertificateChain)
  | encryptedPrivateKey => exact inferInstanceAs (Json.LawfulWire EncryptedPrivateKey)
  | dhPublicKey => exact inferInstanceAs (Json.LawfulWire DhPublicKey)
  | emaid => exact inferInstanceAs (Json.LawfulWire Emaid)

end SignableType

/-! ## Other elements under the same id -/

namespace Signature

variable {suite : Suite} {signature : Signature} {references : List Reference}
  {element other : SignedElement} {elements : List SignedElement} {key : Point}

/-- Where an element is found to be signed, another one under its id is found to be signed if its
octets have the same digest, and does not match otherwise. -/
theorem checkElement_of_same_id (checked : checkElement suite references element = .ok ())
    (sameId : other.id = element.id) :
    checkElement suite references other =
      if suite.digest other.octets = suite.digest element.octets then .ok ()
      else .error (.digestMismatch other.id) := by
  have found := checkElement_eq_ok.mp checked
  have uri_eq : (referenceTo suite other).uri = (referenceTo suite element).uri :=
    uri_referenceTo_inj.mpr sameId
  rw [checkElement, uri_eq]
  simp only [found]
  by_cases sameDigest : suite.digest other.octets = suite.digest element.octets
  · rw [if_pos sameDigest, if_pos ⟨rfl, sameDigest.symm⟩]
  · rw [if_neg sameDigest, if_neg fun matching => sameDigest matching.2.symm]

/-- A list with an element that does not pass is refused with the fault of its elements. -/
theorem verify_eq_error_of_checkElements {fault : SignatureFault}
    (method : signature.signedInfo.signatureMethod = signatureMethod)
    (count : signature.signedInfo.references.length = elements.length)
    (failed : checkElements suite signature.signedInfo.references elements = .error fault) :
    verify suite signature elements key = .error fault := by
  simp only [verify, ne_eq, method, count, failed, not_true, if_false]
  rfl

/-- A signature of one element is accepted for another one under the same id if its octets have the
same digest, and does not match it otherwise. -/
theorem verify_of_same_id (accepted : verify suite signature [element] key = .ok ())
    (sameId : other.id = element.id) :
    verify suite signature [other] key =
      if suite.digest other.octets = suite.digest element.octets then .ok ()
      else .error (.digestMismatch other.id) := by
  obtain ⟨isBy, count, checked⟩ := verify_eq_ok.mp accepted
  have check_eq := checkElement_of_same_id (checked element List.mem_cons_self) sameId
  by_cases sameDigest : suite.digest other.octets = suite.digest element.octets
  · rw [if_pos sameDigest] at check_eq ⊢
    apply verify_eq_ok.mpr
    refine ⟨isBy, count, fun only isOnly => ?_⟩
    rw [List.mem_singleton.mp isOnly]
    exact check_eq
  · rw [if_neg sameDigest] at check_eq ⊢
    have failed : checkElements suite signature.signedInfo.references [other] =
        .error (.digestMismatch other.id) := by
      rw [checkElements, check_eq]
      rfl
    exact verify_eq_error_of_checkElements isBy.1 count failed

/-- A signature binds the whole of the value that it is accepted for.  For a value of the same type
under the same id it is accepted just if this is the same value; if anything in it differs, a member
that one of them lacks included, the digest does not match.  This asks of the suite that the digests
of the two written forms do not collide. -/
theorem accepted_binds_value (suite : Suite) (type : SignableType) (first second : type.Value)
    (id : String) (signature : Signature) (key : Point)
    (noCollision : suite.digest (Json.Wire.write first) = suite.digest (Json.Wire.write second) →
      Json.Wire.write first = Json.Wire.write second)
    (accepted : signature.verify suite [SignedElement.ofValue id first] key = .ok ()) :
    (signature.verify suite [SignedElement.ofValue id second] key = .ok () ↔ first = second) ∧
      (first ≠ second →
        signature.verify suite [SignedElement.ofValue id second] key =
          .error (.digestMismatch id)) := by
  have mismatch (notSame : first ≠ second) :
      verify suite signature [SignedElement.ofValue id second] key =
        .error (.digestMismatch id) := by
    have differ : suite.digest (SignedElement.ofValue id second).octets ≠
        suite.digest (SignedElement.ofValue id first).octets := by
      intro sameDigest
      exact notSame (Json.write_injective (noCollision sameDigest.symm))
    have verify_eq : verify suite signature [SignedElement.ofValue id second] key = _ :=
      verify_of_same_id accepted rfl
    exact verify_eq.trans (if_neg differ)
  refine ⟨⟨fun acceptedToo => ?_, ?_⟩, mismatch⟩
  · by_contra notSame
    cases (mismatch notSame).symm.trans acceptedToo
  · rintro rfl
    exact accepted

open AcceptedDelivery (commonKey)
open Scenario (contractRequest contractRequestElement accepts_contractRequest)

/-- The request for a contract certificate from a vehicle that trusts no root. -/
def rootlessRequest : CertificateInstallationReq :=
  { contractRequest with rootCertificateIds := [] }

/-- The signature of the request for a contract certificate does not match the request without its
roots. -/
theorem contractRequest_bound :
    Suite.standard.digest (Json.Wire.write contractRequest) ≠
        Suite.standard.digest (Json.Wire.write rootlessRequest) ∧
      let point := Suite.standard.publicPoint commonKey
      let signature := create Suite.standard [contractRequestElement] commonKey
      signature.verify Suite.standard [contractRequestElement] point = .ok () ∧
        signature.verify Suite.standard
            [SignedElement.ofValue Turn.signedElementId rootlessRequest] point =
          .error (.digestMismatch Turn.signedElementId) := by
  have differ : Suite.standard.digest (Json.Wire.write contractRequest) ≠
      Suite.standard.digest (Json.Wire.write rootlessRequest) := by
    decide +kernel
  have accepted := verify_create accepts_contractRequest
  have notSame : contractRequest ≠ rootlessRequest := by
    intro same
    exact differ (by rw [same])
  obtain ⟨-, refused⟩ := accepted_binds_value Suite.standard .certificateInstallationReq
    contractRequest rootlessRequest _ _ _ (fun same => absurd same differ) accepted
  exact ⟨differ, accepted, refused notSame⟩

end Signature
end PlugAndCharge
