import PlugAndCharge.Proofs.Storage

/-!
# Slots of the store

Each certificate and each key has a file of its own in the store.  So whatever is stored one after
the other, a slot holds what was stored in it last, and what is stored in one slot is seen in no
other.
-/

namespace PlugAndCharge

open P256 (PrivateKey)

/-! ## Calls -/

/-- A call that stores something. -/
inductive StoreCall where
  | certificate (slot : CertificateSlot) (content : Octets)
  | key (slot : KeySlot) (content : PrivateKey)
  | contract (chain : CertificateChain) (content : PrivateKey)

namespace StoreCall

/-- Makes a call. -/
def perform (suite : Suite) (directory : Directory) : StoreCall → Except PkiError Directory
  | .certificate slot content => directory.storeCertificate slot content
  | .key slot content => directory.storeKey suite slot content
  | .contract chain content =>
    match directory.storeContract suite chain content with
    | (.ok _, after) => .ok after
    | (.error error, _) => .error error

/-- Makes calls one after the other, as long as they succeed. -/
def performAll (suite : Suite) (directory : Directory) :
    List StoreCall → Except PkiError Directory
  | [] => .ok directory
  | call :: calls => do
    let after ← call.perform suite directory
    performAll suite after calls

/-- The certificate that a call stores in a slot, if it stores one there.  The first certificate
above the leaf of a contract has the second place, and the second one the first. -/
def certificate? : StoreCall → CertificateSlot → Option Octets
  | .certificate stored content, slot => if slot = stored then some content else none
  | .key _ _, _ => none
  | .contract chain _, .contractLeaf => some chain.certificate
  | .contract chain _, .moSubCa2 => chain.subCertificates[0]?
  | .contract chain _, .moSubCa1 => chain.subCertificates[1]?
  | .contract _ _, .v2gRoot | .contract _ _, .oemLeaf => none

/-- The key that a call stores in a slot, if it stores one there. -/
def key? : StoreCall → KeySlot → Option PrivateKey
  | .certificate _ _, _ => none
  | .key stored content, slot => if slot = stored then some content else none
  | .contract _ content, .contractLeaf => some content
  | .contract _ _, .oemLeaf => none

/-- The certificate that was stored last in a slot. -/
def lastCertificate? (calls : List StoreCall) (slot : CertificateSlot) : Option Octets :=
  calls.reverse.findSome? (certificate? · slot)

/-- The key that was stored last in a slot. -/
def lastKey? (calls : List StoreCall) (slot : KeySlot) : Option PrivateKey :=
  calls.reverse.findSome? (key? · slot)

end StoreCall

/-! ## Slots -/

/-- A place in the store. -/
inductive StoreSlot where
  | certificate (slot : CertificateSlot)
  | key (slot : KeySlot)
  deriving DecidableEq, Repr

namespace StoreSlot

/-- Where a slot lies. -/
def path : StoreSlot → Path
  | .certificate slot => slot.path
  | .key slot => slot.path

theorem exists_path_eq (slot : StoreSlot) : ∃ folder name, slot.path = [folder, name] := by
  rcases slot with slot | slot <;> cases slot <;> exact ⟨_, _, rfl⟩

/-- No two slots lie in the same place. -/
theorem path_injective : Function.Injective path := by
  rintro (first | first) (second | second) same <;> revert same <;> cases first <;>
    cases second <;> decide

/-- The octets that a call stores in a slot, if it stores any there. -/
def written? (suite : Suite) (call : StoreCall) : StoreSlot → Option Octets
  | .certificate slot => call.certificate? slot
  | .key slot => (call.key? slot).map (KeyFile.encode suite)

end StoreSlot

theorem StoreCall.encode_lastKey? (suite : Suite) (calls : List StoreCall) (slot : KeySlot) :
    calls.reverse.findSome? ((StoreSlot.key slot).written? suite) =
      (lastKey? calls slot).map (KeyFile.encode suite) :=
  (List.map_findSome? ..).symm

namespace Directory

/-! ## Stores -/

/-- A directory below a root is a store with these contents: nothing in it is in the way of a slot,
neither a folder in its place nor a file in place of its folder. -/
structure IsStore (root : String) (contents : StoreSlot → Option Octets) (directory : Directory) :
    Prop where
  root_eq : directory.root = root
  get?_path : ∀ slot : StoreSlot, directory.get? slot.path = contents slot
  topFolders : ∀ path ∈ directory.folders, path.length = 1
  noTopFiles : ∀ path : Path, path.length = 1 → directory.get? path = none

theorem isStore_empty (root : String) : (empty root).IsStore root fun _ => none where
  root_eq := rfl
  get?_path _ := rfl
  topFolders _ isFolder := absurd isFolder List.not_mem_nil
  noTopFiles _ _ := rfl

/-- The files of a contract with their slots, in the order in which they are written. -/
def contractSlots (suite : Suite) (chain : CertificateChain) (key : PrivateKey) :
    List (StoreSlot × Octets) :=
  (.certificate .contractLeaf, chain.certificate) ::
    ((contractSubSlots.map StoreSlot.certificate).zip chain.subCertificates ++
      [(.key .contractLeaf, KeyFile.encode suite key)])

theorem map_contractSlots (suite : Suite) (chain : CertificateChain) (key : PrivateKey) :
    (contractSlots suite chain key).map (Prod.map StoreSlot.path id) =
      contractFiles suite chain key := by
  obtain ⟨id, leaf, _ | ⟨first, _ | ⟨second, rest⟩⟩⟩ := chain <;> rfl

/-- What loading a certificate gives if its slot contains this. -/
def foundCertificate (root : String) (slot : CertificateSlot) :
    Option Octets → Except PkiError Octets
  | some certificate => .ok certificate
  | none => .error (.file (.notFound ((empty root).fullPath slot.path)))

/-- What loading a key gives if its slot contains this. -/
def foundKey (root : String) (slot : KeySlot) : Option PrivateKey → Except PkiError PrivateKey
  | some key => .ok key
  | none =>
    .error (.privateKeyRead ((empty root).fullPath slot.path)
      (.file (.notFound ((empty root).fullPath slot.path))))

theorem foundCertificate_eq_ok {root : String} {slot : CertificateSlot} {content? : Option Octets}
    {certificate : Octets} :
    foundCertificate root slot content? = .ok certificate ↔ content? = some certificate := by
  cases content? <;> simp [foundCertificate]

namespace IsStore

variable {root : String} {contents : StoreSlot → Option Octets} {directory : Directory}

/-- Nothing is in the way of a slot. -/
theorem notObstructed (isStore : directory.IsStore root contents) (slot : StoreSlot) :
    ¬(directory.folders.contains slot.path = true ∨ directory.isBlocked slot.path = true) := by
  obtain ⟨folder, name, path_eq⟩ := slot.exists_path_eq
  rw [path_eq]
  rintro (isFolder | isBlocked)
  · have length_eq := isStore.topFolders _ (List.contains_iff_mem.mp isFolder)
    cases length_eq
  · rw [Directory.isBlocked, ancestors] at isBlocked
    have noFile := isStore.noTopFiles [folder] rfl
    simp [ancestors, noFile] at isBlocked

theorem fullPath_eq (isStore : directory.IsStore root contents) (path : Path) :
    directory.fullPath path = (empty root).fullPath path :=
  congrArg (fun root => "/".intercalate (root :: path)) isStore.root_eq

/-- A slot is read as what it contains. -/
theorem read_eq (isStore : directory.IsStore root contents) (slot : StoreSlot) :
    directory.read slot.path =
      (contents slot).elim (.error (.notFound ((empty root).fullPath slot.path))) .ok := by
  rw [read, isStore.get?_path, if_neg (isStore.notObstructed slot), isStore.fullPath_eq]
  cases contents slot <;> rfl

/-- A slot can be written, and then the store is another one in this slot only. -/
theorem write (isStore : directory.IsStore root contents) (slot : StoreSlot) (content : Octets) :
    ∃ after, directory.write slot.path content = .ok after ∧
      after.IsStore root (Function.update contents slot (some content)) := by
  obtain ⟨after, written⟩ : ∃ after, directory.write slot.path content = .ok after :=
    ⟨_, if_neg (isStore.notObstructed slot)⟩
  have after_eq := written
  rw [Directory.write, if_neg (isStore.notObstructed slot)] at after_eq
  obtain ⟨folder, name, path_eq⟩ := slot.exists_path_eq
  refine ⟨after, written, ?_, fun other => ?_, fun path isFolder => ?_, fun path isTop => ?_⟩
  · rw [← Except.ok.inj after_eq]
    exact isStore.root_eq
  · rw [get?_write written, isStore.get?_path, Function.update_apply]
    simp only [StoreSlot.path_injective.eq_iff]
  · rw [← Except.ok.inj after_eq, path_eq] at isFolder
    simp only [addFolders, ancestors, List.map_nil, List.mem_append, List.mem_filter,
      List.mem_singleton] at isFolder
    obtain isFolder | ⟨rfl, -⟩ := isFolder
    · exact isStore.topFolders path isFolder
    · rfl
  · have other : path ≠ slot.path := by
      rintro rfl
      rw [path_eq] at isTop
      cases isTop
    rw [get?_write written, if_neg other]
    exact isStore.noTopFiles path isTop

/-- Slots can be written one after the other. -/
theorem storeAll (files : List (StoreSlot × Octets)) :
    ∀ {contents : StoreSlot → Option Octets} {directory : Directory},
      directory.IsStore root contents →
        ∃ after, directory.storeAll (files.map (Prod.map StoreSlot.path id)) = (.ok (), after) ∧
          after.IsStore root
            (files.foldl (fun contents file => Function.update contents file.1 (some file.2))
              contents) := by
  induction files with
  | nil => exact fun {_ directory} isStore => ⟨directory, rfl, isStore⟩
  | cons file files ih =>
      intro contents directory isStore
      obtain ⟨between, written, isBetween⟩ := isStore.write file.1 file.2
      obtain ⟨after, stored, isAfter⟩ := ih isBetween
      have first : directory.store file.1.path file.2 = .ok between :=
        congrArg (Except.mapError PkiError.file) written
      refine ⟨after, ?_, isAfter⟩
      rw [List.map_cons, Directory.storeAll.eq_def]
      simp only [Prod.map, id, first]
      exact stored

/-- A call stores what it is to store, and every other slot contains what it did. -/
theorem perform (isStore : directory.IsStore root contents) (suite : Suite) (call : StoreCall) :
    ∃ after, call.perform suite directory = .ok after ∧
      after.IsStore root fun slot => (slot.written? suite call).or (contents slot) := by
  rcases call with ⟨stored, content⟩ | ⟨stored, content⟩ | ⟨chain, content⟩
  · obtain ⟨after, written, isAfter⟩ := isStore.write (.certificate stored) content
    refine ⟨after, congrArg (Except.mapError PkiError.file) written, ?_⟩
    convert isAfter using 2 with slot
    rcases slot with slot | slot
    · by_cases same : slot = stored <;>
        simp [StoreSlot.written?, StoreCall.certificate?, same]
    · rfl
  · obtain ⟨after, written, isAfter⟩ := isStore.write (.key stored) (KeyFile.encode suite content)
    refine ⟨after, congrArg (Except.mapError PkiError.file) written, ?_⟩
    convert isAfter using 2 with slot
    rcases slot with slot | slot
    · rfl
    · by_cases same : slot = stored <;>
        simp [StoreSlot.written?, StoreCall.key?, same]
  · obtain ⟨after, stored, isAfter⟩ := isStore.storeAll (contractSlots suite chain content)
    rw [map_contractSlots] at stored
    refine ⟨after, ?_, ?_⟩
    · rw [StoreCall.perform, storeContract, stored]
    · convert isAfter using 2 with slot
      obtain ⟨id, leaf, _ | ⟨first, _ | ⟨second, rest⟩⟩⟩ := chain <;>
        rcases slot with slot | slot <;> cases slot <;> rfl

/-- A slot contains what was stored in it last, and what it did if nothing was. -/
theorem performAll (suite : Suite) (calls : List StoreCall) :
    ∀ {contents : StoreSlot → Option Octets} {directory : Directory},
      directory.IsStore root contents →
        ∃ after, StoreCall.performAll suite directory calls = .ok after ∧
          after.IsStore root fun slot =>
            (calls.reverse.findSome? (slot.written? suite)).or (contents slot) := by
  induction calls with
  | nil => exact fun {_ directory} isStore => ⟨directory, rfl, isStore⟩
  | cons call calls ih =>
      intro contents directory isStore
      obtain ⟨between, performed, isBetween⟩ := isStore.perform suite call
      obtain ⟨after, performedRest, isAfter⟩ := ih isBetween
      refine ⟨after, ?_, ?_⟩
      · rw [StoreCall.performAll, performed]
        exact performedRest
      · simpa only [List.reverse_cons, List.findSome?_append, List.findSome?_singleton,
          Option.or_assoc] using isAfter

/-- A certificate is loaded as its slot contains it. -/
theorem loadCertificate_eq (isStore : directory.IsStore root contents) (slot : CertificateSlot) :
    directory.loadCertificate slot = foundCertificate root slot (contents (.certificate slot)) := by
  have read_eq : directory.read slot.path = _ := isStore.read_eq (.certificate slot)
  rw [loadCertificate, read_eq]
  cases contents (.certificate slot) <;> rfl

/-- A key is loaded as its slot contains it in its encoding. -/
theorem loadKey_eq (isStore : directory.IsStore root contents) {suite : Suite} {slot : KeySlot}
    {key? : Option PrivateKey} (contains : contents (.key slot) = key?.map (KeyFile.encode suite)) :
    directory.loadKey suite slot = foundKey root slot key? := by
  rcases key? with _ | key
  · have read_eq : directory.read slot.path = _ := isStore.read_eq (.key slot)
    rw [loadKey, read_eq, contains, isStore.fullPath_eq]
    rfl
  · exact loadKey_of_get? ((isStore.get?_path (.key slot)).trans contains)

end IsStore

/-! ## Chains -/

variable {directory : Directory}

/-- Certificates are loaded if each of them is, in their order. -/
theorem loadCertificates_eq_ok {slots : List CertificateSlot} {certificates : List Octets} :
    directory.loadCertificates slots = .ok certificates ↔
      List.Forall₂ (fun slot certificate => directory.loadCertificate slot = .ok certificate)
        slots certificates := by
  induction slots generalizing certificates with
  | nil =>
      rw [List.forall₂_nil_left_iff, loadCertificates, Except.ok.injEq, eq_comm]
  | cons slot slots ih =>
      rw [List.forall₂_cons_left_iff]
      simp only [loadCertificates, Except.bind_eq_ok, ih]
      constructor
      · rintro ⟨first, loaded, rest, loadedRest, returned⟩
        exact ⟨first, rest, loaded, loadedRest, (Except.ok.inj returned).symm⟩
      · rintro ⟨first, rest, loaded, loadedRest, rfl⟩
        exact ⟨first, loaded, rest, loadedRest, rfl⟩

/-- A chain is loaded if its leaf is, and every certificate above it. -/
theorem loadChain_eq_ok {leaf : CertificateSlot} {slots : List CertificateSlot}
    {chain : CertificateChain} :
    directory.loadChain leaf slots = .ok chain ↔
      chain.id = none ∧ directory.loadCertificate leaf = .ok chain.certificate ∧
        List.Forall₂ (fun slot certificate => directory.loadCertificate slot = .ok certificate)
          slots chain.subCertificates := by
  simp only [loadChain, Except.bind_eq_ok, loadCertificates_eq_ok]
  constructor
  · rintro ⟨first, loaded, rest, loadedRest, returned⟩
    rw [← Except.ok.inj returned]
    exact ⟨rfl, loaded, loadedRest⟩
  · obtain ⟨id, first, rest⟩ := chain
    rintro ⟨rfl, loaded, loadedRest⟩
    exact ⟨first, loaded, rest, loadedRest, rfl⟩

/-- Certificates are loaded if all of them are there. -/
theorem exists_loadCertificates {slots : List CertificateSlot} :
    (∃ certificates, directory.loadCertificates slots = .ok certificates) ↔
      ∀ slot ∈ slots, ∃ certificate, directory.loadCertificate slot = .ok certificate := by
  induction slots with
  | nil => exact iff_of_true ⟨[], rfl⟩ fun _ isSlot => absurd isSlot List.not_mem_nil
  | cons slot slots ih =>
      rw [List.forall_mem_cons, ← ih]
      simp only [loadCertificates, Except.bind_eq_ok]
      constructor
      · rintro ⟨-, first, loaded, rest, loadedRest, -⟩
        exact ⟨⟨first, loaded⟩, rest, loadedRest⟩
      · rintro ⟨⟨first, loaded⟩, rest, loadedRest⟩
        exact ⟨_, first, loaded, rest, loadedRest, rfl⟩

/-- A chain is loaded if all its certificates are there. -/
theorem exists_loadChain {leaf : CertificateSlot} {slots : List CertificateSlot} :
    (∃ chain, directory.loadChain leaf slots = .ok chain) ↔
      ∀ slot ∈ leaf :: slots, ∃ certificate, directory.loadCertificate slot = .ok certificate := by
  rw [List.forall_mem_cons, ← exists_loadCertificates]
  simp only [loadChain, Except.bind_eq_ok]
  constructor
  · rintro ⟨-, first, loaded, rest, loadedRest, -⟩
    exact ⟨⟨first, loaded⟩, rest, loadedRest⟩
  · rintro ⟨⟨first, loaded⟩, rest, loadedRest⟩
    exact ⟨_, first, loaded, rest, loadedRest, rfl⟩

/-! ## Independence -/

/-- The store after some calls. -/
theorem isStore_performAll (suite : Suite) (root : String) (calls : List StoreCall) :
    ∃ directory, StoreCall.performAll suite (empty root) calls = .ok directory ∧
      directory.IsStore root fun slot => calls.reverse.findSome? (slot.written? suite) := by
  obtain ⟨directory, performed, isStore⟩ := (isStore_empty root).performAll suite calls
  exact ⟨directory, performed, by simpa only [Option.or_none] using isStore⟩

/-- Whatever is stored one after the other, a certificate and a key are loaded as they were stored
last, and not found if they never were; a chain is loaded if all its certificates were stored, in
the order asked for.  A further call changes nothing but what it stores. -/
theorem slots_independent (suite : Suite) (root : String) (calls : List StoreCall) :
    ∃ directory, StoreCall.performAll suite (empty root) calls = .ok directory ∧
      (∀ slot, directory.loadCertificate slot =
        foundCertificate root slot (StoreCall.lastCertificate? calls slot)) ∧
      (∀ slot, directory.loadKey suite slot =
        foundKey root slot (StoreCall.lastKey? calls slot)) ∧
      (∀ leaf slots chain, directory.loadChain leaf slots = .ok chain ↔
        chain.id = none ∧ StoreCall.lastCertificate? calls leaf = some chain.certificate ∧
          List.Forall₂ (fun slot certificate =>
              StoreCall.lastCertificate? calls slot = some certificate)
            slots chain.subCertificates) ∧
      (∀ leaf slots, (∃ chain, directory.loadChain leaf slots = .ok chain) ↔
        ∀ slot ∈ leaf :: slots, ∃ certificate,
          StoreCall.lastCertificate? calls slot = some certificate) ∧
      ∀ call : StoreCall, ∃ after, call.perform suite directory = .ok after ∧
        (∀ slot, call.certificate? slot = none →
          after.loadCertificate slot = directory.loadCertificate slot) ∧
        ∀ slot, call.key? slot = none →
          after.loadKey suite slot = directory.loadKey suite slot := by
  obtain ⟨directory, performed, isStore⟩ := isStore_performAll suite root calls
  have certificates (slot : CertificateSlot) : directory.loadCertificate slot =
      foundCertificate root slot (StoreCall.lastCertificate? calls slot) :=
    isStore.loadCertificate_eq slot
  have keys (slot : KeySlot) := isStore.loadKey_eq (StoreCall.encode_lastKey? suite calls slot)
  refine ⟨directory, performed, certificates, keys, ?_, ?_, ?_⟩
  · intro leaf slots chain
    simp only [loadChain_eq_ok, certificates, foundCertificate_eq_ok]
  · intro leaf slots
    simp only [exists_loadChain, certificates, foundCertificate_eq_ok]
  · intro call
    obtain ⟨after, performed, isAfter⟩ := isStore.perform suite call
    refine ⟨after, performed, fun slot untouched => ?_, fun slot untouched => ?_⟩
    · rw [certificates, isAfter.loadCertificate_eq]
      rw [StoreSlot.written?, untouched, Option.none_or]
      rfl
    · rw [keys]
      apply isAfter.loadKey_eq
      rw [StoreSlot.written?, untouched, Option.map_none, Option.none_or]
      exact StoreCall.encode_lastKey? suite calls slot

/-- A certificate, a contract, and a certificate in place of one of the contract. -/
def replacement : List StoreCall :=
  [.certificate .moSubCa2 [0x2F], .contract StoredDelivery.chain StoredDelivery.formerKey,
    .certificate .moSubCa1 [0x32]]

/-- The chain is loaded with the certificate that was replaced, and a key that is stored for another
slot leaves it as it is. -/
theorem replacement_loaded :
    ∃ directory, StoreCall.performAll Suite.standard (empty "") replacement = .ok directory ∧
      directory.loadChain .contractLeaf contractSubSlots =
        .ok { id := none
              certificate := StoredDelivery.chain.certificate
              subCertificates := [[0x30, 0x00], [0x32]] } ∧
      directory.loadKey Suite.standard .contractLeaf = .ok StoredDelivery.formerKey ∧
      ∃ after,
        (StoreCall.key .oemLeaf StoredDelivery.formerKey).perform Suite.standard directory =
            .ok after ∧
          after.loadCertificate .moSubCa1 = .ok [0x32] ∧
          after.loadKey Suite.standard .contractLeaf = .ok StoredDelivery.formerKey := by
  obtain ⟨directory, performed, certificates, keys, chains, -, others⟩ :=
    slots_independent Suite.standard "" replacement
  obtain ⟨after, stored, sameCertificates, sameKeys⟩ :=
    others (.key .oemLeaf StoredDelivery.formerKey)
  refine ⟨directory, performed, ?_, keys .contractLeaf, after, stored, ?_, ?_⟩
  · exact (chains _ _ _).mpr ⟨rfl, rfl, .cons rfl (.cons rfl .nil)⟩
  · exact (sameCertificates .moSubCa1 rfl).trans (certificates .moSubCa1)
  · exact (sameKeys .contractLeaf rfl).trans (keys .contractLeaf)

end Directory
end PlugAndCharge
