import PlugAndCharge.Proofs.Coverage
import PlugAndCharge.Proofs.Reaction

/-!
# Delivered contracts

A vehicle is given a contract only if the delivery is signed as a whole by someone whose
certificates lead to the stored root.  The station chooses the ids of the four elements and may
repeat them; the elements are told apart by their octets, and the encrypted key from the point
beside it by their lengths.
-/

namespace PlugAndCharge

open P256 (Point PrivateKey)

/-! ## The written form of the elements -/

namespace Json

/-- The front of an object up to the end of its id. -/
def writeIdFront (id : String) : Octets := openBrace :: (writeText "Id" ++ colon :: writeText id)

/-- An object with an id and a written value. -/
def writeIdAndValue (id : String) (written : Octets) : Octets :=
  writeIdFront id ++ comma :: (writeText "Value" ++ colon :: (written ++ [closeBrace]))

theorem writeIdAndValue_inj {id : String} {first second : Octets} :
    writeIdAndValue id first = writeIdAndValue id second ↔ first = second := by
  simp [writeIdAndValue]

theorem write_encryptedPrivateKey (element : EncryptedPrivateKey) :
    Wire.write element = writeIdAndValue element.id (Wire.write element.value) := by
  simp [Wire.write, Members.write, Members.written, Member.required, commaSeparated,
    writeIdAndValue, writeIdFront]

theorem write_dhPublicKey (element : DhPublicKey) :
    Wire.write element = writeIdAndValue element.id (Wire.write element.value) := by
  simp [Wire.write, Members.write, Members.written, Member.required, commaSeparated,
    writeIdAndValue, writeIdFront]

theorem write_emaid {element : Emaid} {id : String} (hasId : element.id = some id) :
    Wire.write element = writeIdAndValue id (Wire.write element.value) := by
  simp [Wire.write, Members.write, Members.written, Member.required, Member.optional,
    commaSeparated, writeIdAndValue, writeIdFront, hasId]

/-- A chain goes on after its id with a certificate. -/
theorem write_certificateChain_ne {chain : CertificateChain} {id : String}
    (hasId : chain.id = some id) (written : Octets) :
    Wire.write chain ≠ writeIdAndValue id written := by
  have front : ∃ rest, Wire.write chain =
      writeIdFront id ++ comma :: (writeText "Certificate" ++ rest) := by
    refine ⟨colon :: (Wire.write chain.certificate ++ comma ::
      (writeText "SubCertificates" ++ colon :: (Wire.write chain.subCertificates ++
        [closeBrace]))), ?_⟩
    simp [Wire.write, Members.write, Members.written, Member.required, Member.optional,
      Member.withDefault, commaSeparated, writeIdFront, hasId]
  obtain ⟨rest, front⟩ := front
  rw [front, writeIdAndValue]
  intro same
  have behind := List.append_cancel_left same
  have certificateText : (writeText "Certificate").take 2 = [quote, 0x43] := by decide
  have valueText : (writeText "Value").take 2 = [quote, 0x56] := by decide
  have names := congrArg (List.take 3) behind
  simp only [List.take_succ_cons] at names
  rw [List.take_append_of_le_length (by decide), List.take_append_of_le_length (by decide),
    certificateText, valueText] at names
  exact absurd names (by decide)

/-- Octets are an array and a text is none. -/
theorem write_octets_ne_write_text (octets : Octets) (text : String) :
    Wire.write octets ≠ Wire.write text := by
  intro same
  exact absurd (List.cons.inj same).1 (by decide)

/-! ## Commas -/

/-- Decimal digits are no commas. -/
theorem comma_notMem_writeNat (number : Nat) : comma ∉ writeNat number := by
  intro isMem
  obtain ⟨digit, isDigit, digit_eq⟩ := List.mem_map.mp isMem
  have isDigit := Nat.isDigit_of_mem_toDigits (by decide) (by decide) isDigit
  have ⟨low, high⟩ := Char.isDigit_iff_toNat.mp isDigit
  have toNat_eq : digit.toNat % 256 = comma.toNat := by
    rw [← digit_eq, UInt8.toNat_ofNat']
  have comma_toNat : comma.toNat = 44 := rfl
  have zero_toNat : '0'.toNat = 48 := rfl
  have nine_toNat : '9'.toNat = 57 := rfl
  omega

theorem count_commaSeparated {parts : List Octets} (plain : ∀ part ∈ parts, comma ∉ part) :
    (commaSeparated parts).count comma = parts.length - 1 := by
  induction parts with
  | nil => rfl
  | cons part parts ih =>
      have none := List.count_eq_zero.mpr (plain part List.mem_cons_self)
      cases parts with
      | nil => exact none
      | cons next rest =>
          have counted := ih fun part isPart => plain part (List.mem_cons_of_mem _ isPart)
          change (part ++ comma :: commaSeparated (next :: rest)).count comma = _
          rw [List.count_append, none, List.count_cons_self, counted]
          simp

/-- The commas of written octets give their number away. -/
theorem count_write_octets (octets : Octets) :
    (Wire.write octets).count comma = octets.length - 1 := by
  have plain : ∀ part ∈ octets.map (Wire.write (α := UInt8)), comma ∉ part := by
    intro part isPart
    obtain ⟨octet, -, rfl⟩ := List.mem_map.mp isPart
    exact comma_notMem_writeNat _
  change (openBracket :: (commaSeparated (octets.map Wire.write) ++ [closeBracket])).count comma = _
  rw [List.count_cons_of_ne (by decide), List.count_append, count_commaSeparated plain]
  simp
  decide

end Json

/-! ## The encrypted key -/

/-- An encoding of a point takes sixty-five octets, or thirty-three if it is compressed. -/
theorem P256.Point.length_of_ofSec1? {octets : Octets} {point : Point}
    (isPoint : Point.ofSec1? octets = some point) : octets.length = 65 ∨ octets.length = 33 := by
  unfold Point.ofSec1? at isPoint
  cases octets with
  | nil => cases isPoint
  | cons tag coordinates =>
      rw [List.length_cons]
      dsimp only at isPoint
      split at isPoint
      · next uncompressed => exact .inl (congrArg Nat.succ uncompressed.2)
      · split at isPoint
        · next compressed => exact .inr (congrArg Nat.succ compressed)
        · cases isPoint

/-- An encrypted key takes forty-eight octets, and the point beside it does not. -/
theorem KeyTransport.lengths_of_decrypt {suite : Suite} {encrypted peer : Octets}
    {own key : PrivateKey} (decrypted : decrypt suite encrypted own peer = .ok key) :
    encrypted.length = 48 ∧ peer.length ≠ 48 := by
  unfold decrypt at decrypted
  by_cases length_eq : encrypted.length = blockLength + scalarLength
  · cases isPoint : Point.ofSec1? peer with
    | none => simp [length_eq, agree, isPoint, bind, Except.bind] at decrypted
    | some point =>
        have length := Point.length_of_ofSec1? isPoint
        have total : blockLength + scalarLength = 48 := rfl
        omega
  · simp [length_eq, bind, Except.bind] at decrypted

/-! ## The signed elements -/

namespace CertificateInstallationRes

/-- The four elements of a delivery, two of them under ids that they need not have. -/
def elementsWith (content : CertificateInstallationRes) (chainId emaidId : String) :
    List SignedElement :=
  [.ofValue chainId content.contractChain,
    .ofValue content.encryptedPrivateKey.id content.encryptedPrivateKey,
    .ofValue content.dhPublicKey.id content.dhPublicKey,
    .ofValue emaidId content.emaid]

/-- The octets of the four elements. -/
def encodings (content : CertificateInstallationRes) : List Octets :=
  [Json.Wire.write content.contractChain, Json.Wire.write content.encryptedPrivateKey,
    Json.Wire.write content.dhPublicKey, Json.Wire.write content.emaid]

theorem signedElements_eq_ok {content : CertificateInstallationRes}
    {elements : List SignedElement} :
    content.signedElements = .ok elements ↔
      ∃ chainId emaidId, content.contractChain.id = some chainId ∧
        content.emaid.id = some emaidId ∧ elements = content.elementsWith chainId emaidId := by
  unfold signedElements elementsWith
  cases content.contractChain.id with
  | none => simp [elementId, bind, Except.bind]
  | some chainId =>
      cases content.emaid.id with
      | none => simp [elementId, bind, Except.bind]
      | some emaidId => simp [elementId, bind, Except.bind, pure, Except.pure, eq_comm]

/-- The elements of a delivery are told apart by their octets even if they share their ids, as long
as the encrypted key and the point beside it differ in length. -/
theorem nodup_elementsWith {content : CertificateInstallationRes} {chainId emaidId : String}
    (hasChainId : content.contractChain.id = some chainId)
    (hasEmaidId : content.emaid.id = some emaidId)
    (keyLength : content.encryptedPrivateKey.value.length = 48)
    (pointLength : content.dhPublicKey.value.length ≠ 48) :
    (content.elementsWith chainId emaidId).Nodup := by
  have keyOctets := Json.write_encryptedPrivateKey content.encryptedPrivateKey
  have pointOctets := Json.write_dhPublicKey content.dhPublicKey
  have emaidOctets := Json.write_emaid hasEmaidId
  have chain_ne {id : String} {octets written : Octets}
      (octets_eq : octets = Json.writeIdAndValue id written) :
      SignedElement.ofValue chainId content.contractChain ≠ ⟨id, octets⟩ := by
    intro same
    obtain ⟨rfl, written_eq⟩ := SignedElement.mk.inj same
    exact Json.write_certificateChain_ne hasChainId written (written_eq.trans octets_eq)
  have key_ne_point : SignedElement.ofValue content.encryptedPrivateKey.id
      content.encryptedPrivateKey ≠ .ofValue content.dhPublicKey.id content.dhPublicKey := by
    intro same
    obtain ⟨id_eq, written_eq⟩ := SignedElement.mk.inj same
    rw [keyOctets, pointOctets, id_eq, Json.writeIdAndValue_inj] at written_eq
    have commas := congrArg (List.count Json.comma) written_eq
    rw [Json.count_write_octets, Json.count_write_octets, keyLength] at commas
    omega
  have ne_emaid {id : String} {octets value : Octets}
      (octets_eq : octets = Json.writeIdAndValue id (Json.Wire.write value)) :
      (⟨id, octets⟩ : SignedElement) ≠ .ofValue emaidId content.emaid := by
    intro same
    obtain ⟨rfl, written_eq⟩ := SignedElement.mk.inj same
    rw [octets_eq, emaidOctets, Json.writeIdAndValue_inj] at written_eq
    exact Json.write_octets_ne_write_text _ _ written_eq
  simp only [elementsWith, List.nodup_cons, List.mem_cons, List.not_mem_nil, or_false, not_or]
  exact ⟨⟨chain_ne keyOctets, chain_ne pointOctets, chain_ne emaidOctets⟩,
    ⟨key_ne_point, ne_emaid keyOctets⟩, ne_emaid pointOctets, not_false, List.nodup_nil⟩

end CertificateInstallationRes
end PlugAndCharge
