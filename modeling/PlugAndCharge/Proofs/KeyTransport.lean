import Mathlib.Data.FinEnum
import Mathlib.Data.Set.Finite.List
import PlugAndCharge.Proofs.Cipher
import PlugAndCharge.Proofs.KeyFile
import PlugAndCharge.Security.KeyTransport

/-!
# Transported keys

A key that is encrypted for the owner of another one is decrypted by that owner to the same key, and
what is decrypted to a key is the one encryption of this key with its start.  Both parties derive the
cipher's key on their own, and the chain of blocks is undone block by block.
-/

namespace PlugAndCharge

open P256 (Point PrivateKey)

namespace KeyTransport

/-! ## Ciphers on blocks -/

/-- A function on blocks undoes another one that takes blocks to blocks. -/
def Undoes (decipher cipher : Octets → Octets) : Prop :=
  ∀ block, block.length = blockLength →
    (cipher block).length = blockLength ∧ decipher (cipher block) = block

/-- There are only so many blocks, so each one is the image of one, and undoing goes both ways. -/
theorem Undoes.symm {decipher cipher : Octets → Octets} (undoes : Undoes decipher cipher) :
    Undoes cipher decipher := by
  have mapsTo : Set.MapsTo cipher {block | block.length = blockLength}
      {block | block.length = blockLength} := fun block isBlock => (undoes block isBlock).1
  have injOn : Set.InjOn cipher {block | block.length = blockLength} := by
    intro first isFirst second isSecond same
    rw [← (undoes first isFirst).2, same, (undoes second isSecond).2]
  have bijOn := ((List.finite_length_eq UInt8 blockLength).injOn_iff_bijOn_of_mapsTo mapsTo).mp injOn
  intro block isBlock
  obtain ⟨origin, isOrigin, rfl⟩ := bijOn.surjOn isBlock
  obtain ⟨-, undone⟩ := undoes origin isOrigin
  rw [undone]
  exact ⟨isOrigin, rfl⟩

/-! ## Chains -/

variable {decipher cipher : Octets → Octets} {previous : Octets} {blocks : List Octets}

/-- The blocks of an encrypted chain. -/
def encryptedBlocks (cipher : Octets → Octets) : (previous : Octets) → List Octets → List Octets
  | _, [] => []
  | previous, block :: blocks =>
    let encrypted := cipher (Octets.add previous block)
    encrypted :: encryptedBlocks cipher encrypted blocks

/-- The blocks of a decrypted chain. -/
def decryptedBlocks (decipher : Octets → Octets) : (previous : Octets) → List Octets → List Octets
  | _, [] => []
  | previous, block :: blocks =>
    Octets.add previous (decipher block) :: decryptedBlocks decipher block blocks

theorem encryptChain_eq :
    encryptChain cipher previous blocks = (encryptedBlocks cipher previous blocks).flatten := by
  induction blocks generalizing previous with
  | nil => rfl
  | cons block blocks ih => rw [encryptChain, encryptedBlocks, List.flatten_cons, ih]

theorem decryptChain_eq :
    decryptChain decipher previous blocks = (decryptedBlocks decipher previous blocks).flatten := by
  induction blocks generalizing previous with
  | nil => rfl
  | cons block blocks ih => rw [decryptChain, decryptedBlocks, List.flatten_cons, ih]

/-- Encrypting a chain and decrypting it takes each block back. -/
theorem decryptedBlocks_encryptedBlocks (undoes : Undoes decipher cipher)
    (isPrevious : previous.length = blockLength)
    (areBlocks : ∀ block ∈ blocks, block.length = blockLength) :
    (∀ block ∈ encryptedBlocks cipher previous blocks, block.length = blockLength) ∧
      decryptedBlocks decipher previous (encryptedBlocks cipher previous blocks) = blocks := by
  induction blocks generalizing previous with
  | nil => simp [encryptedBlocks, decryptedBlocks]
  | cons block blocks ih =>
      obtain ⟨isBlock, areRest⟩ := List.forall_mem_cons.mp areBlocks
      have same_length := isPrevious.trans isBlock.symm
      obtain ⟨isEncrypted, undone⟩ := undoes _ ((Octets.length_add same_length).trans isBlock)
      obtain ⟨areEncrypted, rest⟩ := ih isEncrypted areRest
      refine ⟨List.forall_mem_cons.mpr ⟨isEncrypted, areEncrypted⟩, ?_⟩
      rw [encryptedBlocks, decryptedBlocks, undone, rest, Octets.add_add_cancel same_length]

/-- Decrypting a chain and encrypting it takes each block back. -/
theorem encryptedBlocks_decryptedBlocks (undoes : Undoes decipher cipher)
    (isPrevious : previous.length = blockLength)
    (areBlocks : ∀ block ∈ blocks, block.length = blockLength) :
    (∀ block ∈ decryptedBlocks decipher previous blocks, block.length = blockLength) ∧
      encryptedBlocks cipher previous (decryptedBlocks decipher previous blocks) = blocks := by
  induction blocks generalizing previous with
  | nil => simp [encryptedBlocks, decryptedBlocks]
  | cons block blocks ih =>
      obtain ⟨isBlock, areRest⟩ := List.forall_mem_cons.mp areBlocks
      obtain ⟨isDecrypted, undone⟩ := undoes.symm block isBlock
      obtain ⟨areDecrypted, rest⟩ := ih isBlock areRest
      have same_length := isPrevious.trans isDecrypted.symm
      have isAdded := (Octets.length_add same_length).trans isDecrypted
      refine ⟨List.forall_mem_cons.mpr ⟨isAdded, areDecrypted⟩, ?_⟩
      rw [decryptedBlocks, encryptedBlocks, Octets.add_add_cancel same_length, undone, rest]

/-! ## Two blocks -/

theorem length_of_mem_twoBlocks {octets : Octets} (length_eq : octets.length = scalarLength) :
    ∀ block ∈ twoBlocks octets, block.length = blockLength := by
  have total : scalarLength = blockLength + blockLength := rfl
  simp [twoBlocks, length_eq, total]

theorem flatten_twoBlocks {octets : Octets} (length_eq : octets.length = scalarLength) :
    (twoBlocks octets).flatten = octets := by
  have rest : (octets.drop blockLength).take blockLength = octets.drop blockLength :=
    List.take_of_length_le (by rw [List.length_drop, length_eq]; decide)
  simp [twoBlocks, rest]

/-- Two blocks in a row are cut apart again. -/
theorem twoBlocks_flatten (areTwo : blocks.length = 2)
    (areBlocks : ∀ block ∈ blocks, block.length = blockLength) :
    blocks.flatten.length = scalarLength ∧ twoBlocks blocks.flatten = blocks := by
  obtain ⟨first, second, rfl⟩ := List.length_eq_two.mp areTwo
  have first_eq : first.length = blockLength := areBlocks first (by simp)
  have second_eq : second.length = blockLength := areBlocks second (by simp)
  have flat : [first, second].flatten = first ++ second := by simp
  rw [flat, List.length_append, first_eq, second_eq]
  refine ⟨rfl, ?_⟩
  rw [twoBlocks, ← first_eq, List.take_left, List.drop_left, first_eq, ← second_eq, List.take_length]

theorem length_encryptedBlocks : (encryptedBlocks cipher previous blocks).length = blocks.length := by
  induction blocks generalizing previous with
  | nil => rfl
  | cons block blocks ih => simp [encryptedBlocks, ih]

theorem length_decryptedBlocks :
    (decryptedBlocks decipher previous blocks).length = blocks.length := by
  induction blocks generalizing previous with
  | nil => rfl
  | cons block blocks ih => simp [decryptedBlocks, ih]

/-- A text of two blocks is encrypted to one of two blocks, which is decrypted to it. -/
theorem decryptChain_encryptChain (undoes : Undoes decipher cipher) {octets : Octets}
    (isPrevious : previous.length = blockLength) (length_eq : octets.length = scalarLength) :
    (encryptChain cipher previous (twoBlocks octets)).length = scalarLength ∧
      decryptChain decipher previous (twoBlocks (encryptChain cipher previous (twoBlocks octets))) =
        octets := by
  obtain ⟨areBlocks, undone⟩ := decryptedBlocks_encryptedBlocks undoes isPrevious
    (length_of_mem_twoBlocks length_eq)
  obtain ⟨flat_length, cut⟩ := twoBlocks_flatten length_encryptedBlocks areBlocks
  rw [encryptChain_eq]
  refine ⟨flat_length, ?_⟩
  rw [cut, decryptChain_eq, undone, flatten_twoBlocks length_eq]

/-- A text of two blocks is decrypted to one of two blocks, which is encrypted to it. -/
theorem encryptChain_decryptChain (undoes : Undoes decipher cipher) {octets : Octets}
    (isPrevious : previous.length = blockLength) (length_eq : octets.length = scalarLength) :
    (decryptChain decipher previous (twoBlocks octets)).length = scalarLength ∧
      encryptChain cipher previous (twoBlocks (decryptChain decipher previous (twoBlocks octets))) =
        octets := by
  obtain ⟨areBlocks, undone⟩ := encryptedBlocks_decryptedBlocks undoes isPrevious
    (length_of_mem_twoBlocks length_eq)
  obtain ⟨flat_length, cut⟩ := twoBlocks_flatten length_decryptedBlocks areBlocks
  rw [decryptChain_eq]
  refine ⟨flat_length, ?_⟩
  rw [cut, encryptChain_eq, undone, flatten_twoBlocks length_eq]

/-! ## Keys -/

theorem readScalar_toOctets (key : PrivateKey) : readScalar key.toOctets = .ok key := by
  rw [readScalar, KeyFile.ofOctets?_toOctets key]

theorem scalar_of_ofNat? {scalar : Nat} {key : PrivateKey}
    (isKey : PrivateKey.ofNat? scalar = some key) : key.scalar = scalar := by
  unfold PrivateKey.ofNat? at isKey
  split at isKey
  · cases isKey
    rfl
  · cases isKey

/-- Octets of a scalar's length that are read as a key are what the key is written as. -/
theorem toOctets_of_readScalar {octets : Octets} {key : PrivateKey}
    (reads : readScalar octets = .ok key) (length_eq : octets.length = scalarLength) :
    key.toOctets = octets := by
  have inBounds : 24 ≤ octets.length ∧ octets.length ≤ 32 := by
    rw [length_eq]
    decide
  simp only [readScalar, PrivateKey.ofOctets?, if_pos inBounds] at reads
  cases isKey : PrivateKey.ofNat? octets.toNat with
  | none => rw [isKey] at reads; cases reads
  | some found =>
      rw [isKey] at reads
      obtain rfl := Except.ok.inj reads
      have width_eq : 32 = octets.length := length_eq.symm
      rw [PrivateKey.toOctets, scalar_of_ofNat? isKey, width_eq, Octets.ofNat_toNat]

theorem agree_eq_ok {suite : Suite} {own : PrivateKey} {peer : Octets} {point : Point}
    (reads : Point.ofSec1? peer = some point) :
    agree suite own peer = .ok (sessionKey suite (suite.agree own point)) := by
  rw [agree, reads]

end KeyTransport

/-! ## Parties -/

open KeyTransport (blockLength scalarLength sessionKey)

namespace Suite

/-- Either owner of a key reads the other's public half as it is written, and both agree on the same
secret. -/
def Shares (suite : Suite) (own other : PrivateKey) : Prop :=
  Point.ofSec1? (suite.publicPoint own).toSec1 = some (suite.publicPoint own) ∧
    Point.ofSec1? (suite.publicPoint other).toSec1 = some (suite.publicPoint other) ∧
    suite.agree own (suite.publicPoint other) = suite.agree other (suite.publicPoint own)

instance (suite : Suite) (own other : PrivateKey) : Decidable (suite.Shares own other) :=
  inferInstanceAs (Decidable (_ ∧ _ ∧ _))

/-- Under a key, decrypting a block undoes encrypting it to a block. -/
def Enciphers (suite : Suite) (key : Octets) : Prop :=
  KeyTransport.Undoes (suite.decryptBlock key) (suite.encryptBlock key)

theorem length_sessionKey_standard (secret : Octets) :
    (sessionKey Suite.standard secret).length = Aes128.blockLength := by
  have digest_length (octets : Octets) : (Suite.standard.digest octets).length = 32 :=
    Sha256.length_digest octets
  rw [sessionKey, List.length_take, digest_length]
  rfl

/-- AES-128 enciphers under every key of a block's length. -/
theorem standard_enciphers {key : Octets} (isKey : key.length = Aes128.blockLength) :
    Suite.standard.Enciphers key :=
  fun _ isBlock =>
    ⟨Aes128.length_encryptBlock isKey isBlock, Aes128.decryptBlock_encryptBlock isKey isBlock⟩

end Suite

namespace KeyTransport

variable {suite : Suite} {ephemeral own : PrivateKey}

/-- What is encrypted for the owner of a key. -/
theorem encrypt_eq_ok (shares : suite.Shares ephemeral own) (key : PrivateKey) (start : Octets) :
    encrypt suite key ephemeral (suite.publicPoint own).toSec1 start =
      .ok (start ++ encryptChain (suite.encryptBlock
        (sessionKey suite (suite.agree ephemeral (suite.publicPoint own)))) start
          (twoBlocks key.toOctets)) := by
  rw [encrypt, agree_eq_ok shares.2.1]
  rfl

/-- What is decrypted by the owner of a key. -/
theorem decrypt_eq_ok (shares : suite.Shares ephemeral own) {encrypted : Octets} {key : PrivateKey} :
    decrypt suite encrypted own (suite.publicPoint ephemeral).toSec1 = .ok key ↔
      encrypted.length = blockLength + scalarLength ∧
        readScalar (decryptChain (suite.decryptBlock
          (sessionKey suite (suite.agree ephemeral (suite.publicPoint own))))
            (encrypted.take blockLength) (twoBlocks (encrypted.drop blockLength))) = .ok key := by
  rw [decrypt, agree_eq_ok shares.1, shares.2.2]
  by_cases length_eq : encrypted.length = blockLength + scalarLength
  · simp only [length_eq, ne_eq, not_true, if_false, true_and]
    rfl
  · simp [length_eq, bind, Except.bind]

/-- Transport of keys loses and adds nothing.  A key is encrypted to forty-eight octets, of which the
given start is the first third, and the owner of the other key decrypts them to the key; and octets
that are decrypted to a key are the encryption of just this key with their own start.  This asks of
the suite that the two owners share a secret and that its cipher can be undone under it. -/
theorem transport_lossless (suite : Suite) (ephemeral own : PrivateKey)
    (shares : suite.Shares ephemeral own)
    (enciphers : suite.Enciphers
      (sessionKey suite (suite.agree ephemeral (suite.publicPoint own)))) :
    (∀ key start, start.length = blockLength →
      ∃ encrypted,
        encrypt suite key ephemeral (suite.publicPoint own).toSec1 start = .ok encrypted ∧
          encrypted.length = 48 ∧ encrypted.take blockLength = start ∧
          decrypt suite encrypted own (suite.publicPoint ephemeral).toSec1 = .ok key) ∧
      ∀ encrypted key,
        decrypt suite encrypted own (suite.publicPoint ephemeral).toSec1 = .ok key →
          encrypt suite key ephemeral (suite.publicPoint own).toSec1 (encrypted.take blockLength) =
            .ok encrypted := by
  constructor
  · intro key start isStart
    have isScalar : key.toOctets.length = scalarLength := Octets.length_ofNat 32 key.scalar
    obtain ⟨chain_length, undone⟩ := decryptChain_encryptChain enciphers isStart isScalar
    have start_eq (chain : Octets) : (start ++ chain).take blockLength = start := by
      rw [← isStart, List.take_left]
    have chain_eq (chain : Octets) : (start ++ chain).drop blockLength = chain := by
      rw [← isStart, List.drop_left]
    refine ⟨_, encrypt_eq_ok shares key start, ?_, start_eq _, (decrypt_eq_ok shares).mpr ⟨?_, ?_⟩⟩
    · rw [List.length_append, isStart, chain_length]
      rfl
    · rw [List.length_append, isStart, chain_length]
    · rw [start_eq, chain_eq, undone, readScalar_toOctets]
  · intro encrypted key decrypted
    obtain ⟨length_eq, reads⟩ := (decrypt_eq_ok shares).mp decrypted
    have isStart : (encrypted.take blockLength).length = blockLength :=
      List.length_take_of_le (by omega)
    have isScalar : (encrypted.drop blockLength).length = scalarLength := by
      rw [List.length_drop]
      omega
    obtain ⟨plain_length, undone⟩ := encryptChain_decryptChain enciphers isStart isScalar
    rw [encrypt_eq_ok shares, toOctets_of_readScalar reads plain_length, undone,
      List.take_append_drop]

/-- The key of the sender of a key. -/
def senderKey : PrivateKey := ⟨5, by decide, by decide⟩

/-- The key of the receiver of a key. -/
def receiverKey : PrivateKey := ⟨7, by decide, by decide⟩

/-- A key whose scalar takes one octet, after thirty-one zeros, is received as it is sent. -/
theorem smallKey_received :
    Suite.standard.Shares senderKey receiverKey ∧
      Suite.standard.Enciphers (sessionKey Suite.standard
        (Suite.standard.agree senderKey (Suite.standard.publicPoint receiverKey))) ∧
      ∃ key : PrivateKey, key.scalar = 1 ∧ ∃ encrypted,
        encrypt Suite.standard key senderKey (Suite.standard.publicPoint receiverKey).toSec1
          (List.replicate 16 0) = .ok encrypted ∧
        decrypt Suite.standard encrypted receiverKey
          (Suite.standard.publicPoint senderKey).toSec1 = .ok key := by
  have shares : Suite.standard.Shares senderKey receiverKey := by decide +kernel
  have enciphers := Suite.standard_enciphers (Suite.length_sessionKey_standard
    (Suite.standard.agree senderKey (Suite.standard.publicPoint receiverKey)))
  obtain ⟨readsBack, -⟩ := transport_lossless Suite.standard senderKey receiverKey shares enciphers
  obtain ⟨encrypted, isEncrypted, -, -, decrypted⟩ :=
    readsBack ⟨1, by decide, by decide⟩ (List.replicate 16 0) rfl
  exact ⟨shares, enciphers, _, rfl, encrypted, isEncrypted, decrypted⟩

end KeyTransport
end PlugAndCharge
