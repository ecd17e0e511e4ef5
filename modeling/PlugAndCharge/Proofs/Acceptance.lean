import PlugAndCharge.Proofs.Signing

/-!
# What a created signature is accepted for

A signature that a key creates for elements without an id in common is accepted, under the public
half of the key, for these elements in every order and for no list of another length.  The header of
a message carries it to a receiver who reads the same signature.
-/

namespace PlugAndCharge

open P256 (Point PrivateKey)

namespace Signature

variable {suite : Suite} {elements : List SignedElement} {key : PrivateKey} {signature : Signature}
  {point : Point}

/-- A signature is accepted for elements in every order, and refused for every list with fewer or
more of them. -/
def CoversJust (suite : Suite) (signature : Signature) (elements : List SignedElement)
    (point : Point) : Prop :=
  (∀ reordered, reordered.Perm elements → signature.verify suite reordered point = .ok ()) ∧
    ∀ others, others.length ≠ elements.length →
      signature.verify suite others point = .error (.wrongCount others.length elements.length)

/-- A list of another length than the list of references is refused for it. -/
theorem verify_eq_wrongCount {others : List SignedElement}
    (method : signature.signedInfo.signatureMethod = signatureMethod)
    (count : signature.signedInfo.references.length ≠ others.length) :
    signature.verify suite others point =
      .error (.wrongCount others.length signature.signedInfo.references.length) := by
  simp only [verify, ne_eq, method, count, not_true, not_false_iff, if_false, if_true]
  rfl

theorem create_coversJust
    (accepts : suite.Accepts key (Json.Wire.write (infoFor suite elements)))
    (distinct : (elements.map SignedElement.id).Nodup) :
    (create suite elements key).CoversJust suite elements (suite.publicPoint key) := by
  have count_eq : (create suite elements key).signedInfo.references.length = elements.length :=
    List.length_map _
  constructor
  · intro reordered perm
    refine (verify_create_iff accepts distinct).mpr ⟨perm.length_eq, fun other isOther => ?_⟩
    exact ⟨other, perm.mem_iff.mp isOther, rfl⟩
  · intro others length_ne
    rw [← count_eq] at length_ne ⊢
    exact verify_eq_wrongCount rfl length_ne.symm

/-- What is signed is verified: a created signature is accepted for its elements in every order, and
for no list to which elements are added or from which they are taken away.  So is the signature that
the receiver of a message reads out of its header.  This asks of the suite that it accepts what it
signs with the key. -/
theorem created_covers_elements (suite : Suite) (key : PrivateKey) (elements : List SignedElement)
    (distinct : (elements.map SignedElement.id).Nodup)
    (accepts : suite.Accepts key (Json.Wire.write (infoFor suite elements))) :
    (create suite elements key).CoversJust suite elements (suite.publicPoint key) ∧
      ∀ message : Message, message.header.signature = some (create suite elements key) →
        ∃ received signature, Message.decode message.encode = .ok received ∧
          received.header.signature = some signature ∧
          signature.CoversJust suite elements (suite.publicPoint key) := by
  have covers := create_coversJust accepts distinct
  refine ⟨covers, fun message carried => ?_⟩
  exact ⟨message, _, Message.decode_encode message, carried, covers⟩

open AcceptedDelivery (commonKey)

/-- Three elements.  The id of the second is what the reference to the first looks like, and their
octets are the same. -/
def threeElements : List SignedElement :=
  [{ id := "1", octets := [] }, { id := "#1", octets := [] }, { id := "2", octets := [0x00] }]

/-- A message with the signature of the three elements. -/
def signedMessage : Message where
  header :=
    { sessionId := SessionId.unassigned
      signature := some (create Suite.standard threeElements commonKey) }
  body := .response (.sessionStop { responseCode := .ok })

/-- The standard suite accepts what it signs for the three elements. -/
theorem accepts_threeElements :
    Suite.standard.Accepts commonKey
      (Json.Wire.write (infoFor Suite.standard threeElements)) := by
  decide +kernel

/-- The signature of the three elements is accepted for them in the opposite order.  So is the one
that is read out of the message, which is refused for two of them and for one more. -/
theorem threeElements_covered :
    (threeElements.map SignedElement.id).Nodup ∧
      Suite.standard.Accepts commonKey
        (Json.Wire.write (infoFor Suite.standard threeElements)) ∧
      threeElements.reverse ≠ threeElements ∧
      let point := Suite.standard.publicPoint commonKey
      (create Suite.standard threeElements commonKey).verify Suite.standard
          threeElements.reverse point = .ok () ∧
        ∃ received signature, Message.decode signedMessage.encode = .ok received ∧
          received.header.signature = some signature ∧
          signature.verify Suite.standard threeElements.reverse point = .ok () ∧
          signature.verify Suite.standard threeElements.tail point =
            .error (.wrongCount 2 3) ∧
          signature.verify Suite.standard ({ id := "3", octets := [] } :: threeElements) point =
            .error (.wrongCount 4 3) := by
  have distinct : (threeElements.map SignedElement.id).Nodup := by decide
  obtain ⟨⟨covers, -⟩, carries⟩ := created_covers_elements Suite.standard commonKey threeElements
    distinct accepts_threeElements
  obtain ⟨received, signature, read, carried, coversRead, refuses⟩ := carries signedMessage rfl
  have reordered := threeElements.reverse_perm
  exact ⟨distinct, accepts_threeElements, by decide, covers _ reordered, received, signature, read,
    carried, coversRead _ reordered, refuses _ (by decide), refuses _ (by decide)⟩

end Signature
end PlugAndCharge
