import PlugAndCharge.Proofs.Coverage

/-!
# Which chains are accepted

A chain of certificates is accepted just if each one in it, from the leaf on, is issued by the next
one up to the root.  A link that fails fails the whole chain, wherever it is and whatever the others
are like, and the failure is one of a certificate.
-/

namespace PlugAndCharge

open P256 (Point)

/-- A sequence fails if one of its parts does. -/
theorem Except.bind_eq_error {ε α β : Type} {first : Except ε α} {next : α → Except ε β}
    {error : ε} :
    (first >>= next) = .error error ↔
      first = .error error ∨ ∃ middle, first = .ok middle ∧ next middle = .error error := by
  cases first with
  | error error => simp [bind, Except.bind]
  | ok middle => simp [bind, Except.bind]

/-- A failure is one of a certificate. -/
inductive PkiError.IsOfCertificate : PkiError → Prop where
  | fault (fault : CertificateFault) : IsOfCertificate (.invalidCertificate fault)

namespace Certificate

variable {suite : Suite} {certificate issuer root : Certificate} {der : Octets} {error : PkiError}

/-! ## Failures -/

theorem isOfCertificate_of_parse (failed : parse der = .error error) :
    error.IsOfCertificate := by
  unfold parse at failed
  split at failed
  · cases failed
  · cases failed
    exact .fault _

theorem isOfCertificate_of_publicKey (failed : publicKey certificate = .error error) :
    error.IsOfCertificate := by
  unfold publicKey at failed
  split at failed
  · cases failed
  · cases failed
    exact .fault _

theorem isOfCertificate_of_verifyIssuedBy
    (failed : verifyIssuedBy suite certificate issuer = .error error) :
    error.IsOfCertificate := by
  by_cases algorithm : certificate.signatureAlgorithm.oid = Oid.ecdsaWithSha256
  · by_cases named : certificate.tbs.issuer = issuer.tbs.subject
    · cases isValue : signatureValue? certificate.signature.octets with
      | none =>
          simp only [verifyIssuedBy, algorithm, named, isValue, ne_eq, not_true, if_false] at failed
          cases failed
          exact .fault _
      | some value =>
          simp only [verifyIssuedBy, algorithm, named, isValue, ne_eq, not_true, if_false] at failed
          obtain failed | ⟨key, -, failed⟩ := Except.bind_eq_error.mp failed
          · exact isOfCertificate_of_publicKey failed
          · split at failed
            · cases failed
            · cases failed
              exact .fault _
    · simp only [verifyIssuedBy, algorithm, named, ne_eq, not_true, not_false_iff, if_false,
        if_true] at failed
      cases failed
      exact .fault _
  · simp only [verifyIssuedBy, algorithm, ne_eq, not_false_iff, if_true] at failed
    cases failed
    exact .fault _

theorem isOfCertificate_of_verifyLinks {subCertificates : List Octets}
    (failed : verifyLinks suite root certificate subCertificates = .error error) :
    error.IsOfCertificate := by
  induction subCertificates generalizing certificate with
  | nil => exact isOfCertificate_of_verifyIssuedBy failed
  | cons der rest ih =>
      obtain failed | ⟨issuer, -, failed⟩ := Except.bind_eq_error.mp failed
      · exact isOfCertificate_of_parse failed
      obtain failed | ⟨-, -, failed⟩ := Except.bind_eq_error.mp failed
      · exact isOfCertificate_of_verifyIssuedBy failed
      · exact ih failed

theorem isOfCertificate_of_verifyChain {leaf root : Octets} {subCertificates : List Octets}
    (failed : verifyChain suite leaf subCertificates root = .error error) :
    error.IsOfCertificate := by
  obtain failed | ⟨certificate, -, failed⟩ := Except.bind_eq_error.mp failed
  · exact isOfCertificate_of_parse failed
  obtain failed | ⟨rootCertificate, -, failed⟩ := Except.bind_eq_error.mp failed
  · exact isOfCertificate_of_parse failed
  obtain failed | ⟨-, -, failed⟩ := Except.bind_eq_error.mp failed
  · exact isOfCertificate_of_verifyLinks failed
  · exact isOfCertificate_of_publicKey failed

/-! ## Chains -/

/-- Octets that hold certificates hold as many as they are, the last one last. -/
theorem forall₂_holds_append_singleton {front : List Octets} {certificates : List Certificate} :
    List.Forall₂ Holds (front ++ [der]) certificates ↔
      ∃ issuers last, certificates = issuers ++ [last] ∧ List.Forall₂ Holds front issuers ∧
        Holds der last := by
  constructor
  · intro held
    induction front generalizing certificates with
    | nil =>
        cases held with
        | cons holdsLast rest =>
            cases rest
            exact ⟨[], _, rfl, .nil, holdsLast⟩
    | cons first front ih =>
        cases held with
        | cons holdsFirst rest =>
            obtain ⟨issuers, last, rfl, heldFront, holdsLast⟩ := ih rest
            exact ⟨_ :: issuers, last, rfl, .cons holdsFirst heldFront, holdsLast⟩
  · rintro ⟨issuers, last, rfl, heldFront, holdsLast⟩
    exact List.rel_append heldFront (.cons holdsLast .nil)

/-- The certificates of a path stand one after another, from the leaf to the root. -/
theorem isPath_iff {leaf root : Octets} {subCertificates : List Octets} {key : Point} :
    IsPath suite leaf subCertificates root key ↔
      ∃ certificates, List.Forall₂ Holds (leaf :: (subCertificates ++ [root])) certificates ∧
        certificates.IsChain (IssuedBy suite) ∧
        ∃ first ∈ certificates.head?, first.publicKey = .ok key := by
  constructor
  · rintro ⟨certificate, issuers, rootCertificate, held, heldSubs, heldRoot, chain, isKey⟩
    refine ⟨certificate :: (issuers ++ [rootCertificate]), .cons held ?_, chain, certificate, rfl,
      isKey⟩
    exact forall₂_holds_append_singleton.mpr ⟨issuers, rootCertificate, rfl, heldSubs, heldRoot⟩
  · rintro ⟨certificates, held, chain, first, isFirst, isKey⟩
    cases held with
    | cons heldLeaf heldRest =>
        obtain rfl := Option.some.inj isFirst
        obtain ⟨issuers, rootCertificate, rfl, heldSubs, heldRoot⟩ :=
          forall₂_holds_append_singleton.mp heldRest
        exact ⟨_, issuers, rootCertificate, heldLeaf, heldSubs, heldRoot, chain, isKey⟩

/-- Two neighbours of an accepted chain are linked. -/
theorem issuedBy_of_forall₂ {chain front back : List Octets} {first second : Octets}
    {certificates : List Certificate} (held : List.Forall₂ Holds chain certificates)
    (issued : certificates.IsChain (IssuedBy suite))
    (shape : chain = front ++ first :: second :: back) :
    ∃ certificate issuer, Holds first certificate ∧ Holds second issuer ∧
      IssuedBy suite certificate issuer := by
  subst shape
  induction front generalizing certificates with
  | nil =>
      cases held with
      | cons holdsFirst rest =>
          cases rest with
          | cons holdsSecond rest =>
              exact ⟨_, _, holdsFirst, holdsSecond, (List.isChain_cons_cons.mp issued).1⟩
  | cons der front ih =>
      cases held with
      | cons holdsDer rest => exact ih issued.of_cons rest

/-- A chain is accepted, with the key of its leaf, just if all of it can be read and each
certificate is found to be issued by the next one.  A link that fails fails the chain, whatever the
others are like. -/
theorem verifyChain_iff_links (suite : Suite) (leaf : Octets) (subCertificates : List Octets)
    (root : Octets) :
    (∀ key, verifyChain suite leaf subCertificates root = .ok key ↔
      ∃ certificates, List.Forall₂ Holds (leaf :: (subCertificates ++ [root])) certificates ∧
        certificates.IsChain (fun certificate issuer =>
          verifyIssuedBy suite certificate issuer = .ok ()) ∧
        ∃ first ∈ certificates.head?, first.publicKey = .ok key) ∧
      (∀ certificate issuer,
        verifyIssuedBy suite certificate issuer = .ok () ↔ IssuedBy suite certificate issuer) ∧
      ∀ front first second back,
        leaf :: (subCertificates ++ [root]) = front ++ first :: second :: back →
        (∀ certificate issuer, Holds first certificate → Holds second issuer →
          ¬IssuedBy suite certificate issuer) →
        ∃ error, verifyChain suite leaf subCertificates root = .error error ∧
          error.IsOfCertificate := by
  refine ⟨fun key => ?_, fun certificate issuer => verifyIssuedBy_eq_ok, ?_⟩
  · simp only [verifyIssuedBy_eq_ok]
    exact verifyChain_eq_ok.trans isPath_iff
  · intro front first second back shape unlinked
    cases verified : verifyChain suite leaf subCertificates root with
    | error error => exact ⟨error, rfl, isOfCertificate_of_verifyChain verified⟩
    | ok key =>
        obtain ⟨certificates, held, issued, -⟩ := isPath_iff.mp (verifyChain_eq_ok.mp verified)
        obtain ⟨certificate, issuer, holdsFirst, holdsSecond, isIssued⟩ :=
          issuedBy_of_forall₂ held issued shape
        exact absurd isIssued (unlinked certificate issuer holdsFirst holdsSecond)

end Certificate
end PlugAndCharge
