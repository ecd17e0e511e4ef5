import Mathlib.Data.List.Nodup
import Mathlib.Data.List.Perm.Subperm
import Mathlib.Data.Set.Function
import PlugAndCharge.Certificate.Chain
import PlugAndCharge.Security.MessageSignature

/-!
# What an accepted signature covers

A signature that is accepted refers to each of the elements, and to as many of them as there are.
If no two of the elements have the same reference, it refers to nothing else.  A chain of
certificates that is accepted leads from one issuer to the next up to the root.
-/

namespace PlugAndCharge

open P256 (Point)

/-- A sequence succeeds if both of its parts do. -/
theorem Except.bind_eq_ok {ε α β : Type} {first : Except ε α} {next : α → Except ε β}
    {value : β} :
    (first >>= next) = .ok value ↔ ∃ middle, first = .ok middle ∧ next middle = .ok value := by
  cases first with
  | error error => simp [bind, Except.bind]
  | ok middle => simp [bind, Except.bind]

theorem Except.mapError_eq_ok {ε ε' α : Type} {result : Except ε α} {change : ε → ε'}
    {value : α} :
    result.mapError change = .ok value ↔ result = .ok value := by
  cases result with
  | error error => simp [Except.mapError]
  | ok value => simp [Except.mapError]

/-! ## Signatures -/

namespace Signature

variable {suite : Suite} {references : List Reference} {element : SignedElement}
  {elements : List SignedElement} {signature : Signature} {key : Point}

/-- An element is found to be signed if the first reference to its id is the one to it. -/
theorem checkElement_eq_ok :
    checkElement suite references element = .ok () ↔
      (references.find? fun reference => reference.uri == (referenceTo suite element).uri) =
        some (referenceTo suite element) := by
  simp only [checkElement]
  cases found : references.find? fun reference =>
      reference.uri == (referenceTo suite element).uri with
  | none => simp
  | some reference =>
      have uri_eq : reference.uri = (referenceTo suite element).uri := by
        simpa using List.find?_some found
      simp only [Option.some.injEq]
      constructor
      · intro checked
        split at checked
        · next same =>
            obtain ⟨method_eq, digest_eq⟩ := same
            obtain ⟨uri, method, digest⟩ := reference
            exact Reference.mk.injEq .. ▸ ⟨uri_eq, method_eq, digest_eq⟩
        · cases checked
      · rintro rfl
        exact if_pos ⟨rfl, rfl⟩

/-- Elements with the same reference have the same id and octets with the same digest. -/
theorem referenceTo_eq {first second : SignedElement} :
    referenceTo suite first = referenceTo suite second ↔
      first.id = second.id ∧ suite.digest first.octets = suite.digest second.octets := by
  simp [referenceTo]

/-- Where the digest tells the octets of elements apart, references tell the elements apart. -/
theorem nodup_map_referenceTo
    (digests : Set.InjOn suite.digest {octets | octets ∈ elements.map SignedElement.octets})
    (nodup : elements.Nodup) : (elements.map (referenceTo suite)).Nodup := by
  refine nodup.map_on fun first isFirst second isSecond same => ?_
  obtain ⟨id_eq, digest_eq⟩ := referenceTo_eq.mp same
  have octets_eq := digests (List.mem_map_of_mem isFirst) (List.mem_map_of_mem isSecond) digest_eq
  cases first
  cases second
  exact SignedElement.mk.injEq .. ▸ ⟨id_eq, octets_eq⟩

theorem checkElements_eq_ok :
    checkElements suite references elements = .ok () ↔
      ∀ element ∈ elements, checkElement suite references element = .ok () := by
  induction elements with
  | nil => simp [checkElements]
  | cons element elements ih =>
      simp only [checkElements, Except.bind_eq_ok, List.forall_mem_cons, ← ih]
      constructor
      · rintro ⟨⟨⟩, checked, rest⟩
        exact ⟨checked, rest⟩
      · rintro ⟨checked, rest⟩
        exact ⟨(), checked, rest⟩

/-- A signature is by the owner of a key: in its one method, over the octets of its list. -/
def IsBy (suite : Suite) (signature : Signature) (key : Point) : Prop :=
  signature.signedInfo.signatureMethod = signatureMethod ∧
    ∃ value, Ecdsa.Value.ofOctets? signature.signatureValue = some value ∧
      suite.verify key (Json.Wire.write signature.signedInfo) value = true

theorem verify_eq_ok :
    verify suite signature elements key = .ok () ↔
      signature.IsBy suite key ∧
        signature.signedInfo.references.length = elements.length ∧
        ∀ element ∈ elements,
          checkElement suite signature.signedInfo.references element = .ok () := by
  unfold IsBy
  rw [← checkElements_eq_ok]
  by_cases method : signature.signedInfo.signatureMethod = signatureMethod
  · by_cases count : signature.signedInfo.references.length = elements.length
    · cases checked : checkElements suite signature.signedInfo.references elements with
      | error fault => simp [verify, method, count, checked, bind, Except.bind]
      | ok =>
          cases isValue : Ecdsa.Value.ofOctets? signature.signatureValue with
          | none => simp [verify, method, count, checked, isValue, bind, Except.bind]
          | some value =>
              simp [verify, method, count, checked, isValue, bind, Except.bind, pure, Except.pure]
    · simp [verify, method, count, bind, Except.bind]
  · simp [verify, method, bind, Except.bind]

/-- A signature that is accepted for elements without a reference in common refers to these elements
and to nothing else. -/
theorem references_perm_of_verify (verified : verify suite signature elements key = .ok ())
    (distinct : (elements.map (referenceTo suite)).Nodup) :
    signature.signedInfo.references.Perm (elements.map (referenceTo suite)) := by
  obtain ⟨-, length_eq, checked⟩ := verify_eq_ok.mp verified
  have covered : elements.map (referenceTo suite) ⊆ signature.signedInfo.references := by
    intro reference isReference
    obtain ⟨element, isElement, rfl⟩ := List.mem_map.mp isReference
    exact List.mem_of_find?_eq_some (checkElement_eq_ok.mp (checked element isElement))
  have subperm := List.subperm_of_subset distinct covered
  have length_le : signature.signedInfo.references.length ≤
      (elements.map (referenceTo suite)).length := by
    rw [List.length_map]
    exact Nat.le_of_eq length_eq
  exact (subperm.perm_of_length_le length_le).symm

end Signature

/-! ## Chains -/

namespace Certificate

variable {suite : Suite}

/-- Octets that hold a certificate. -/
def Holds (der : Octets) (certificate : Certificate) : Prop := parse der = .ok certificate

/-- A certificate is issued by another: it names the other's subject, and the other's key verifies
its signature. -/
def IssuedBy (suite : Suite) (certificate issuer : Certificate) : Prop :=
  certificate.signatureAlgorithm.oid = Oid.ecdsaWithSha256 ∧
    certificate.tbs.issuer = issuer.tbs.subject ∧
    ∃ value key, signatureValue? certificate.signature.octets = some value ∧
      publicKey issuer = .ok key ∧ suite.verify key certificate.tbs.encode value = true

theorem verifyIssuedBy_eq_ok {certificate issuer : Certificate} :
    verifyIssuedBy suite certificate issuer = .ok () ↔ IssuedBy suite certificate issuer := by
  unfold IssuedBy
  by_cases algorithm : certificate.signatureAlgorithm.oid = Oid.ecdsaWithSha256
  · by_cases named : certificate.tbs.issuer = issuer.tbs.subject
    · cases isValue : signatureValue? certificate.signature.octets with
      | none => simp [verifyIssuedBy, algorithm, named, isValue]
      | some value =>
          cases isKey : publicKey issuer with
          | error error =>
              simp [verifyIssuedBy, algorithm, named, isValue, isKey, bind, Except.bind]
          | ok key =>
              simp [verifyIssuedBy, algorithm, named, isValue, isKey, bind, Except.bind, pure,
                Except.pure]
    · simp [verifyIssuedBy, algorithm, named, bind, Except.bind]
  · simp [verifyIssuedBy, algorithm, bind, Except.bind]

/-- A certificate is linked to the root if each one is issued by the next. -/
theorem verifyLinks_eq_ok {root leaf : Certificate} {subCertificates : List Octets} :
    verifyLinks suite root leaf subCertificates = .ok () ↔
      ∃ issuers, List.Forall₂ Holds subCertificates issuers ∧
        (leaf :: (issuers ++ [root])).IsChain (IssuedBy suite) := by
  induction subCertificates generalizing leaf with
  | nil => simp [verifyLinks, verifyIssuedBy_eq_ok]
  | cons der rest ih =>
      simp only [verifyLinks, Except.bind_eq_ok, ih]
      constructor
      · rintro ⟨issuer, held, ⟨⟩, issued, issuers, heldRest, chain⟩
        exact ⟨issuer :: issuers, .cons held heldRest,
          List.isChain_cons_cons.mpr ⟨verifyIssuedBy_eq_ok.mp issued, chain⟩⟩
      · rintro ⟨issuers, held, chain⟩
        cases held with
        | cons heldFirst heldRest =>
            obtain ⟨issued, chain⟩ := List.isChain_cons_cons.mp chain
            exact ⟨_, heldFirst, (), verifyIssuedBy_eq_ok.mpr issued, _, heldRest, chain⟩

/-- A path of certificates: octets that hold a leaf with a key, the certificates above it and a
root, each issued by the next. -/
def IsPath (suite : Suite) (leaf : Octets) (subCertificates : List Octets) (root : Octets)
    (key : Point) : Prop :=
  ∃ certificate issuers rootCertificate, Holds leaf certificate ∧
    List.Forall₂ Holds subCertificates issuers ∧ Holds root rootCertificate ∧
    (certificate :: (issuers ++ [rootCertificate])).IsChain (IssuedBy suite) ∧
    certificate.publicKey = .ok key

theorem verifyChain_eq_ok {leaf root : Octets} {subCertificates : List Octets} {key : Point} :
    verifyChain suite leaf subCertificates root = .ok key ↔
      IsPath suite leaf subCertificates root key := by
  simp only [verifyChain, Except.bind_eq_ok]
  constructor
  · rintro ⟨certificate, held, rootCertificate, heldRoot, _, linked, isKey⟩
    obtain ⟨issuers, heldSubs, chain⟩ := verifyLinks_eq_ok.mp linked
    exact ⟨certificate, issuers, rootCertificate, held, heldSubs, heldRoot, chain, isKey⟩
  · rintro ⟨certificate, issuers, rootCertificate, held, heldSubs, heldRoot, chain, isKey⟩
    exact ⟨certificate, held, rootCertificate, heldRoot, (),
      verifyLinks_eq_ok.mpr ⟨issuers, heldSubs, chain⟩, isKey⟩

end Certificate
end PlugAndCharge
