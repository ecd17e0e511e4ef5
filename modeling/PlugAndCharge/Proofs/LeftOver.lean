import Mathlib.Data.List.Dedup
import PlugAndCharge.Proofs.Coverage

/-!
# What an accepted signature may cover besides the elements

Verification compares the number of references with the number of elements and then looks for a
reference to each element.  Elements that repeat one another find the same reference, so for every
repetition the signature may hold one reference that no element accounts for.
-/

namespace PlugAndCharge
namespace Signature

open P256 (Point)

/-- The references to elements, each one once. -/
def distinctReferences (suite : Suite) (elements : List SignedElement) : List Reference :=
  (elements.map (referenceTo suite)).dedup

/-- The references of a signature that are left when each distinct reference to the elements is
taken out once. -/
def LeavesOver (suite : Suite) (signature : Signature) (elements : List SignedElement)
    (leftOver : List Reference) : Prop :=
  signature.signedInfo.references.Perm (distinctReferences suite elements ++ leftOver)

variable {suite : Suite} {signature : Signature} {elements : List SignedElement} {key : Point}

theorem distinctReferences_subset {references : List Reference}
    (checked : ∀ element ∈ elements, checkElement suite references element = .ok ()) :
    distinctReferences suite elements ⊆ references := by
  intro reference isReference
  obtain ⟨element, isElement, rfl⟩ := List.mem_map.mp (List.mem_dedup.mp isReference)
  exact List.mem_of_find?_eq_some (checkElement_eq_ok.mp (checked element isElement))

/-- A signature with a reference to each element leaves some references over. -/
theorem exists_leavesOver
    (checked : ∀ element ∈ elements,
      checkElement suite signature.signedInfo.references element = .ok ()) :
    ∃ leftOver, signature.LeavesOver suite elements leftOver := by
  have subperm : (distinctReferences suite elements).Subperm signature.signedInfo.references :=
    List.subperm_of_subset (List.nodup_dedup _) (distinctReferences_subset checked)
  obtain ⟨found, same, sublist⟩ := subperm
  obtain ⟨leftOver, perm⟩ := sublist.exists_perm_append
  exact ⟨leftOver, perm.trans (same.append_right leftOver)⟩

/-- A signature is accepted if it is by the owner of the key, the first reference to the id of each
element is the one to the element, and it leaves over as many references as there are repetitions
among those of the elements.  Without repetitions the references are those of the elements and no
others. -/
theorem verify_eq_ok_iff_leavesOver :
    (verify suite signature elements key = .ok () ↔
      signature.IsBy suite key ∧
        (∀ element ∈ elements,
          (signature.signedInfo.references.find? fun reference =>
            reference.uri == (referenceTo suite element).uri) = some (referenceTo suite element)) ∧
        ∃ leftOver, signature.LeavesOver suite elements leftOver ∧
          (distinctReferences suite elements).length + leftOver.length = elements.length) ∧
      (verify suite signature elements key = .ok () → (elements.map (referenceTo suite)).Nodup →
        signature.signedInfo.references.Perm (elements.map (referenceTo suite))) := by
  refine ⟨?_, references_perm_of_verify⟩
  simp only [verify_eq_ok, checkElement_eq_ok]
  refine and_congr_right fun _ => ⟨?_, ?_⟩
  · rintro ⟨count, firsts⟩
    obtain ⟨leftOver, perm⟩ := exists_leavesOver fun element isElement =>
      checkElement_eq_ok.mpr (firsts element isElement)
    have lengths := perm.length_eq
    rw [List.length_append, count] at lengths
    exact ⟨firsts, leftOver, perm, lengths.symm⟩
  · rintro ⟨firsts, leftOver, perm, lengths⟩
    have count := perm.length_eq
    rw [List.length_append, lengths] at count
    exact ⟨count, firsts⟩

/-- A list that repeats one element. -/
def repeatedElements : List SignedElement :=
  [⟨"a", Octets.ofText "x"⟩, ⟨"a", Octets.ofText "x"⟩]

/-- A signature over the repeated element and another one, by the owner of the base point. -/
def signatureOverTwo : Signature where
  signedInfo := infoFor Suite.standard [⟨"a", Octets.ofText "x"⟩, ⟨"b", Octets.ofText "y"⟩]
  signatureValue :=
    [107, 171, 62, 90, 139, 167, 22, 200, 119, 196, 113, 2, 111, 45, 140, 131,
      170, 32, 121, 83, 225, 51, 249, 101, 3, 215, 23, 246, 181, 48, 74, 147,
      48, 115, 29, 9, 140, 200, 70, 39, 126, 119, 207, 243, 51, 203, 19, 59,
      119, 78, 119, 191, 195, 56, 73, 86, 205, 187, 227, 52, 77, 253, 145, 229]

/-- Not every accepted signature covers exactly the elements: this one also covers an element that
is not among them. -/
theorem exists_verify_not_perm :
    verify Suite.standard signatureOverTwo repeatedElements P256.base = .ok () ∧
      ¬signatureOverTwo.signedInfo.references.Perm
        (repeatedElements.map (referenceTo Suite.standard)) := by
  constructor
  · decide +kernel
  · intro perm
    have isSigned : referenceTo Suite.standard ⟨"b", Octets.ofText "y"⟩ ∈
        repeatedElements.map (referenceTo Suite.standard) :=
      perm.subset (by simp [signatureOverTwo, infoFor])
    simp [repeatedElements, referenceTo] at isSigned

end Signature
end PlugAndCharge
