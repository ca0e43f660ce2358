import TelegramDrive.Crypto.Sealed
import TelegramDrive.Crypto.VaultFiles

namespace TelegramDrive
namespace Crypto

/-!
# Mutations of a vault

Saving a profile, changing the passphrase and importing a bundle change the vault in
memory and its file.  Outside a preparation they write the files themselves; inside one
they leave the bytes for the commit.  An operation that returns an error should have
changed neither, which holds of all of them but one: a profile is put in memory before it
is stored, and stays there when storing it fails.
-/

/-! ## The operations -/

/-- What the vault reads and writes. -/
inductive Storage
  | files (files : VaultFiles)
  | preparation (captured pending : Option Bytes) (archive : Bool)
deriving DecidableEq

namespace Storage

def capturedBytes : Storage -> CryptoResult Bytes
  | files before => before.capturedBytes
  | preparation captured _ _ =>
    match captured with
    | none => .error vaultMissing
    | some bytes => .ok bytes

/-- `atomic_write` -/
def write (faults : Faults) (bytes : Bytes) : Storage -> CryptoResult Unit × Storage
  | files before =>
    let trace := before.atomicWrite faults bytes
    (trace.result, files (trace.final before))
  | preparation captured _ archive => (.ok (), preparation captured (some bytes) archive)

/-- `archive_before_replacement`, which copies the readable file aside if there is one. -/
def archiveBeforeReplacement (archiving : CryptoResult Unit) : Storage -> CryptoResult Unit × Storage
  | files before => (if before.readable.isNone then .ok () else archiving, files before)
  | preparation captured pending _ => (.ok (), preparation captured pending true)

end Storage

structure StoredVault where
  vault : FileVault
  storage : Storage

/-- What a call draws, which of its accesses fail, and how archiving goes. -/
structure Surroundings where
  draws : Draws
  faults : Faults
  archiving : CryptoResult Unit

inductive Mutation
  | saveProfile (id : String) (key : SecretKey)
  | changePassphrase (passphrase : Bytes)
  | importBundle (bundle recovery : Bytes) (vaultPassphrase : Option Bytes) (allowReplacement : Bool)

namespace FileVault

def insertProfile (vault : FileVault) (id : String) (key : SecretKey) : FileVault :=
  { vault with profiles := vault.profiles.insert id key }

def loadWrappingKey (vault : FileVault) (id : String) : CryptoResult SecretKey :=
  if !vault.unlocked then .error .vaultLocked
  else
    match vault.profiles[id]? with
    | none => .error ⟨.keyRequired, "Key is required to decrypt this file"⟩
    | some key => .ok key

end FileVault

section Mutations

variable (primitives : VaultPrimitives)

/-- `persist_unlocked`, of what is now in memory. -/
def persist (vault : FileVault) (storage : Storage) (around : Surroundings) : CryptoResult Unit × Storage :=
  match persistUnlocked primitives vault around.draws.nonce with
  | .error error => (.error error, storage)
  | .ok bytes => storage.write around.faults bytes

def saveProfile (stored : StoredVault) (around : Surroundings) (id : String) (key : SecretKey) :
    CryptoResult Unit × StoredVault :=
  if !stored.vault.unlocked then (.error .vaultLocked, stored)
  else if ¬ ValidProfileId id then (.error ⟨.policyRejected, "Invalid profile identifier"⟩, stored)
  else
    let vault := stored.vault.insertProfile id key
    let (result, storage) := persist primitives vault stored.storage around
    (result, ⟨vault, storage⟩)

/-- `change_passphrase`: the new passphrase is taken over once the file is written. -/
def storePassphrase (stored : StoredVault) (around : Surroundings) (passphrase : Bytes) :
    CryptoResult Unit × StoredVault :=
  match changePassphrase primitives stored.vault around.draws passphrase with
  | .error error => (.error error, stored)
  | .ok prepared =>
    let (result, storage) := stored.storage.write around.faults (prepared.pending.getD [])
    match result with
    | .error error => (.error error, ⟨stored.vault, storage⟩)
    | .ok () => (.ok (), ⟨prepared.vault, storage⟩)

/-- `replace_material`, which puts everything back when storing fails. -/
def replaceMaterial (stored : StoredVault) (around : Surroundings) (opened : OpenedVault) :
    CryptoResult Unit × StoredVault :=
  let replaced := FileVault.opened opened
  let (result, storage) := persist primitives replaced stored.storage around
  match result with
  | .error error => (.error error, ⟨stored.vault, storage⟩)
  | .ok () => (.ok (), ⟨replaced, storage⟩)

/-- What an import takes over, once the bundle is opened and allowed. -/
def importedMaterial (vault : FileVault) (draws : Draws) (bundle recovery : Bytes)
    (vaultPassphrase : Option Bytes) (allowReplacement : Bool) : CryptoResult OpenedVault := do
  let material <- primitives.openBundle bundle recovery
  importAllowed vault material allowReplacement
  let (unlockKey, salt) <- importProtection primitives vault draws vaultPassphrase
  return ⟨material, unlockKey, salt⟩

def storeBundle (stored : StoredVault) (around : Surroundings) (bundle recovery : Bytes)
    (vaultPassphrase : Option Bytes) (allowReplacement : Bool) : CryptoResult Unit × StoredVault :=
  match importedMaterial primitives stored.vault around.draws bundle recovery vaultPassphrase allowReplacement with
  | .error error => (.error error, stored)
  | .ok opened =>
    let (archived, storage) := stored.storage.archiveBeforeReplacement around.archiving
    match archived with
    | .error error => (.error error, ⟨stored.vault, storage⟩)
    | .ok () => replaceMaterial primitives ⟨stored.vault, storage⟩ around opened

def Mutation.run (stored : StoredVault) (around : Surroundings) : Mutation -> CryptoResult Unit × StoredVault
  | saveProfile id key => Crypto.saveProfile primitives stored around id key
  | changePassphrase passphrase => storePassphrase primitives stored around passphrase
  | importBundle bundle recovery vaultPassphrase allowReplacement =>
    storeBundle primitives stored around bundle recovery vaultPassphrase allowReplacement

/-! ## When a file can be written -/

/-- No access fails up to the rename that commits. -/
structure VaultFiles.Writable (faults : Faults) (files : VaultFiles) : Prop where
  createDirectory : faults.fails .createDirectory = false
  openPart : faults.fails .openPart = false
  writePart : faults.fails .writePart = false
  removeOld : files.primary.isSome = true -> files.backup.isSome = true -> faults.fails .removeOld = false
  setAside : files.primary.isSome = true -> faults.fails .setAside = false
  publish : faults.fails .publish = false

theorem publish_result (faults : Faults) (files : VaultFiles) :
    (files.publish faults).result = .ok () ↔ faults.fails .publish = false := by
  unfold VaultFiles.publish
  cases faults.fails .publish with
  | true =>
    simp only [if_true, Bool.true_eq_false, iff_false]
    split <;> exact fun done => by cases done
  | false =>
    simp only [Bool.false_eq_true, if_false, iff_true]
    split <;> rfl

theorem setAside_result (faults : Faults) (files : VaultFiles) :
    (files.setAside faults).result = .ok () ↔ faults.fails .setAside = false ∧ faults.fails .publish = false := by
  unfold VaultFiles.setAside
  cases faults.fails .setAside with
  | true =>
    simp only [if_true, Bool.true_eq_false, false_and, iff_false]
    exact fun done => by cases done
  | false =>
    simp only [Bool.false_eq_true, if_false, true_and]
    exact publish_result faults _

theorem atomicWrite_result (faults : Faults) (files : VaultFiles) (bytes : Bytes) :
    (files.atomicWrite faults bytes).result = .ok () ↔ files.Writable faults := by
  have stops : ¬ Trace.stopped.result = .ok () := fun done => by cases done
  have replaced : (({ files with part := some bytes } : VaultFiles).replacePrimary faults).result = .ok () ↔
      (files.primary.isSome = true -> files.backup.isSome = true -> faults.fails .removeOld = false) ∧
      (files.primary.isSome = true -> faults.fails .setAside = false) ∧ faults.fails .publish = false := by
    unfold VaultFiles.replacePrimary
    cases present : files.primary with
    | none => simp [publish_result]
    | some primary =>
      cases beside : files.backup with
      | none => simp [setAside_result]
      | some backup =>
        cases old : faults.fails .removeOld with
        | true => simp [stops]
        | false => simp [Trace.after, setAside_result]
  unfold VaultFiles.atomicWrite
  constructor
  · intro done
    split at done
    · exact absurd done stops
    next directory =>
      split at done
      · exact absurd done stops
      next opened =>
        split at done
        · exact absurd done stops
        next written =>
          rcases replaced.mp done with ⟨old, aside, published⟩
          exact ⟨Bool.eq_false_iff.mpr directory, Bool.eq_false_iff.mpr opened,
            Bool.eq_false_iff.mpr written, old, aside, published⟩
  · intro writable
    rw [if_neg (Bool.eq_false_iff.mp writable.createDirectory), if_neg (Bool.eq_false_iff.mp writable.openPart),
      if_neg (Bool.eq_false_iff.mp writable.writePart)]
    exact replaced.mpr ⟨writable.removeOld, writable.setAside, writable.publish⟩

def Storage.Writable (faults : Faults) : Storage -> Prop
  | files before => before.Writable faults
  | preparation _ _ _ => True

theorem write_result (faults : Faults) (bytes : Bytes) (storage : Storage) :
    (storage.write faults bytes).1 = .ok () ↔ storage.Writable faults := by
  cases storage with
  | files before => exact atomicWrite_result faults before bytes
  | preparation captured pending archive => exact iff_of_true rfl trivial

theorem write_failed {faults : Faults} {bytes : Bytes} {storage : Storage} {error : CryptoError}
    (failed : (storage.write faults bytes).1 = .error error) :
    (storage.write faults bytes).2.capturedBytes = storage.capturedBytes := by
  cases storage with
  | files before =>
    have kept := (atomicWrite_replaces faults before bytes).failed error failed
    show ((before.atomicWrite faults bytes).final before).capturedBytes = before.capturedBytes
    rw [capturedBytes_eq, capturedBytes_eq, kept]
  | preparation captured pending archive => cases failed

/-! ## When a vault can be stored -/

/-- The vault in memory can be serialized, encrypted under its own key, and written. -/
structure Storable (vault : FileVault) (storage : Storage) (around : Surroundings) : Prop where
  serializable : Serializable vault.profiles
  sealed : Exists fun vaultKey => Exists fun unlockKey => Exists fun salt => Exists fun file =>
    vault.vaultKey = some vaultKey ∧ vault.unlockKey = some unlockKey ∧ vault.vaultSalt = some salt ∧
      primitives.encryptPayloadWithKey (payloadOf ⟨vault.createdAt, vaultKey, vault.profiles⟩) unlockKey salt
        around.draws.nonce = .ok file
  writable : storage.Writable around.faults

theorem persistUnlocked_ok {vault : FileVault} {nonce : Bytes} :
    (Exists fun file => persistUnlocked primitives vault nonce = .ok file) ↔
      Serializable vault.profiles ∧ Exists fun vaultKey => Exists fun unlockKey => Exists fun salt =>
        Exists fun file => vault.vaultKey = some vaultKey ∧ vault.unlockKey = some unlockKey ∧
          vault.vaultSalt = some salt ∧ primitives.encryptPayloadWithKey
            (payloadOf ⟨vault.createdAt, vaultKey, vault.profiles⟩) unlockKey salt nonce = .ok file := by
  constructor
  · rintro ⟨file, done⟩
    unfold persistUnlocked at done
    split at done
    · cases done
    · cases done
    next unlockKey salt wraps salted =>
      rcases bind_eq_ok done with ⟨material, held, rest⟩
      rcases bind_eq_ok rest with ⟨payload, serialized, encrypted⟩
      have serializable := serializable_of serialized
      rw [serializePayload_of material serializable, Except.ok.injEq] at serialized
      unfold FileVault.material at held
      split at held
      · cases held
      next vaultKey present =>
        cases held
        rw [← serialized] at encrypted
        exact ⟨serializable, vaultKey, unlockKey, salt, file, present, wraps, salted, encrypted⟩
  · rintro ⟨serializable, vaultKey, unlockKey, salt, file, present, wraps, salted, encrypted⟩
    refine ⟨file, ?_⟩
    unfold persistUnlocked FileVault.material
    rw [wraps, salted, present]
    show (serializePayload _ >>= _) = _
    rw [serializePayload_of _ serializable]
    exact encrypted

theorem persist_ok {vault : FileVault} {storage : Storage} {around : Surroundings} :
    (persist primitives vault storage around).1 = .ok () ↔ Storable primitives vault storage around := by
  unfold persist
  cases done : persistUnlocked primitives vault around.draws.nonce with
  | error error =>
    constructor
    · intro impossible
      cases impossible
    · intro storable
      rcases (persistUnlocked_ok primitives).mpr ⟨storable.serializable, storable.sealed⟩ with ⟨file, other⟩
      rw [done] at other
      cases other
  | ok bytes =>
    rcases (persistUnlocked_ok primitives).mp ⟨bytes, done⟩ with ⟨serializable, sealed⟩
    exact (write_result around.faults bytes storage).trans
      ⟨fun writable => ⟨serializable, sealed, writable⟩, fun storable => storable.writable⟩

theorem persist_failed {vault : FileVault} {storage : Storage} {around : Surroundings} {error : CryptoError}
    (failed : (persist primitives vault storage around).1 = .error error) :
    (persist primitives vault storage around).2.capturedBytes = storage.capturedBytes := by
  unfold persist at failed ⊢
  cases done : persistUnlocked primitives vault around.draws.nonce with
  | error other => rfl
  | ok bytes =>
    rw [done] at failed
    exact write_failed failed

end Mutations
/-! ## What a failure leaves -/

/-- Two vaults in memory that hold the same. -/
structure FileVault.Alike (one two : FileVault) : Prop where
  unlocked : one.unlocked = two.unlocked
  vaultKey : one.vaultKey = two.vaultKey
  unlockKey : one.unlockKey = two.unlockKey
  vaultSalt : one.vaultSalt = two.vaultSalt
  createdAt : one.createdAt = two.createdAt
  profiles : one.profiles.Equiv two.profiles

variable {one two : FileVault}

theorem FileVault.Alike.refl (vault : FileVault) : vault.Alike vault :=
  ⟨rfl, rfl, rfl, rfl, rfl, .rfl⟩

theorem FileVault.Alike.insertProfile (alike : one.Alike two) (id : String) (key : SecretKey) :
    (one.insertProfile id key).Alike (two.insertProfile id key) :=
  ⟨alike.unlocked, alike.vaultKey, alike.unlockKey, alike.vaultSalt, alike.createdAt,
    alike.profiles.insert id key⟩

theorem serializePayload_same {one two : Material} (same : one.Same two) :
    serializePayload one = serializePayload two := by
  unfold serializePayload
  rw [same.createdAt, same.vaultKey, same.profiles.size_eq, Std.TreeMap.equiv_iff_toList_eq.mp same.profiles]

theorem FileVault.Alike.payload (alike : one.Alike two) :
    (one.material >>= serializePayload) = (two.material >>= serializePayload) := by
  unfold FileVault.material
  rw [alike.vaultKey]
  cases two.vaultKey with
  | none => rfl
  | some vaultKey => exact serializePayload_same ⟨alike.createdAt, rfl, alike.profiles⟩

section Failures

variable (primitives : VaultPrimitives)

theorem FileVault.Alike.persistUnlocked (alike : one.Alike two) (nonce : Bytes) :
    persistUnlocked primitives one nonce = persistUnlocked primitives two nonce := by
  unfold Crypto.persistUnlocked
  rw [alike.unlockKey, alike.vaultSalt]
  cases two.unlockKey with
  | none => rfl
  | some unlockKey =>
    cases two.vaultSalt with
    | none => rfl
    | some salt =>
      have same := congrArg (fun payload => payload >>= fun payload =>
        primitives.encryptPayloadWithKey payload unlockKey salt nonce) alike.payload
      simpa only [bind_assoc] using same

theorem FileVault.Alike.exportBundle (alike : one.Alike two) (passphrase : Bytes) :
    exportBundle primitives one passphrase = exportBundle primitives two passphrase := by
  unfold Crypto.exportBundle
  rw [alike.unlocked]
  split
  · rfl
  · have same := congrArg (fun payload => payload >>= fun payload =>
      primitives.createRecoveryBundle payload passphrase) alike.payload
    simpa only [bind_assoc] using same

/-- The same error, or the same file for vaults that hold the same. -/
def Agree : CryptoResult Prepared -> CryptoResult Prepared -> Prop
  | .error one, .error two => one = two
  | .ok one, .ok two => one.pending = two.pending ∧ one.vault.Alike two.vault
  | _, _ => False

theorem FileVault.Alike.changePassphrase (alike : one.Alike two) (draws : Draws) (passphrase : Bytes) :
    Agree (changePassphrase primitives one draws passphrase) (changePassphrase primitives two draws passphrase) := by
  unfold Crypto.changePassphrase
  rw [alike.unlocked]
  split
  · rfl
  · split
    · rfl
    · cases primitives.derivePassphraseKey passphrase draws.salt with
      | error error => rfl
      | ok unlockKey =>
        have shape : forall vault : FileVault, forall next : Bytes -> CryptoResult Prepared,
            (vault.material >>= fun material => serializePayload material >>= next) =
              (vault.material >>= serializePayload) >>= next :=
          fun vault next => (bind_assoc _ _ _).symm
        show Agree (one.material >>= fun material => serializePayload material >>= fun payload => _)
          (two.material >>= fun material => serializePayload material >>= fun payload => _)
        rw [shape, shape, alike.payload]
        cases two.material >>= serializePayload with
        | error error => rfl
        | ok payload =>
          show Agree (primitives.encryptPayloadWithKey payload unlockKey draws.salt draws.nonce >>= _)
            (primitives.encryptPayloadWithKey payload unlockKey draws.salt draws.nonce >>= _)
          cases primitives.encryptPayloadWithKey payload unlockKey draws.salt draws.nonce with
          | error error => rfl
          | ok file =>
            exact ⟨rfl, rfl, alike.vaultKey, rfl, rfl, alike.createdAt, alike.profiles⟩

/-- Later operations do what they would have done before. -/
structure LaterAlike (before after : FileVault) : Prop where
  exports : forall passphrase,
    exportBundle primitives before passphrase = exportBundle primitives after passphrase
  changes : forall draws passphrase,
    Agree (changePassphrase primitives before draws passphrase) (changePassphrase primitives after draws passphrase)
  saves : forall id key nonce,
    persistUnlocked primitives (before.insertProfile id key) nonce =
      persistUnlocked primitives (after.insertProfile id key) nonce ∧
    (before.insertProfile id key).Alike (after.insertProfile id key)

structure ChangesNothing (before after : StoredVault) : Prop where
  memory : before.vault.Alike after.vault
  readable : after.storage.capturedBytes = before.storage.capturedBytes
  later : LaterAlike primitives before.vault after.vault

theorem ChangesNothing.of_alike {before after : StoredVault} (memory : before.vault.Alike after.vault)
    (readable : after.storage.capturedBytes = before.storage.capturedBytes) :
    ChangesNothing primitives before after :=
  ⟨memory, readable, memory.exportBundle primitives, memory.changePassphrase primitives,
    fun id key nonce => ⟨(memory.insertProfile id key).persistUnlocked primitives nonce, memory.insertProfile id key⟩⟩

/-- A profile that passes the checks and is new, or has a new key, cannot be stored. -/
def HalfApplied (stored : StoredVault) (around : Surroundings) : Mutation -> Prop
  | .saveProfile id key =>
    stored.vault.unlocked = true ∧ ValidProfileId id ∧ stored.vault.profiles[id]? ≠ some key ∧
      ¬ Storable primitives (stored.vault.insertProfile id key) stored.storage around
  | _ => False

variable {primitives} {stored : StoredVault} {around : Surroundings}

theorem insertProfile_alike {id : String} {key : SecretKey} :
    one.Alike (one.insertProfile id key) ↔ one.profiles[id]? = some key := by
  constructor
  · intro alike
    rw [alike.profiles.getElem?_eq]
    exact Std.TreeMap.getElem?_insert_self
  · intro found
    refine ⟨rfl, rfl, rfl, rfl, rfl, Std.TreeMap.Equiv.of_forall_constGet?_eq ?_⟩
    intro other
    show one.profiles[other]? = (one.profiles.insert id key)[other]?
    rw [Std.TreeMap.getElem?_insert]
    split
    next same => rw [← Std.LawfulEqCmp.eq_of_compare same, found]
    · rfl

theorem saveProfile_changesNothing (id : String) (key : SecretKey) :
    (forall error, (saveProfile primitives stored around id key).1 = .error error ->
      ChangesNothing primitives stored (saveProfile primitives stored around id key).2) ↔
    ¬ HalfApplied primitives stored around (.saveProfile id key) := by
  unfold saveProfile
  by_cases locked : stored.vault.unlocked = true
  · by_cases valid : ValidProfileId id
    · rw [if_neg (by rw [locked]; decide), if_neg (not_not_intro valid)]
      dsimp only
      have stores : (persist primitives (stored.vault.insertProfile id key) stored.storage around).1 = .ok () ↔
          Storable primitives (stored.vault.insertProfile id key) stored.storage around := persist_ok primitives
      constructor
      · rintro kept ⟨-, -, differs, unstorable⟩
        cases result : (persist primitives (stored.vault.insertProfile id key) stored.storage around).1 with
        | ok done => exact unstorable (stores.mp result)
        | error error => exact differs (insertProfile_alike.mp (kept error result).memory)
      · intro whole error failed
        have unstorable : ¬ Storable primitives (stored.vault.insertProfile id key) stored.storage around := by
          intro storable
          rw [stores.mpr storable] at failed
          cases failed
        have found : stored.vault.profiles[id]? = some key := by
          by_contra differs
          exact whole ⟨locked, valid, differs, unstorable⟩
        exact .of_alike primitives (insertProfile_alike.mpr found) (persist_failed primitives failed)
    · rw [if_neg (by rw [locked]; decide), if_pos valid]
      constructor
      · rintro - ⟨-, other, -⟩
        exact valid other
      · intro _ error _
        exact .of_alike primitives (.refl _) rfl
  · rw [if_pos (by rw [Bool.not_eq_true] at locked; rw [locked]; rfl)]
    constructor
    · rintro - ⟨other, -⟩
      exact locked other
    · intro _ error _
      exact .of_alike primitives (.refl _) rfl

theorem storePassphrase_changesNothing (passphrase : Bytes) {error : CryptoError}
    (failed : (storePassphrase primitives stored around passphrase).1 = .error error) :
    ChangesNothing primitives stored (storePassphrase primitives stored around passphrase).2 := by
  unfold storePassphrase at failed ⊢
  cases changed : changePassphrase primitives stored.vault around.draws passphrase with
  | error error => exact .of_alike primitives (.refl _) rfl
  | ok prepared =>
    rw [changed] at failed
    dsimp only at failed ⊢
    cases result : (stored.storage.write around.faults (prepared.pending.getD [])).1 with
    | error error => exact .of_alike primitives (.refl _) (write_failed result)
    | ok done =>
      rw [result] at failed
      cases failed

theorem replaceMaterial_changesNothing {opened : OpenedVault} {error : CryptoError}
    (failed : (replaceMaterial primitives stored around opened).1 = .error error) :
    ChangesNothing primitives stored (replaceMaterial primitives stored around opened).2 := by
  unfold replaceMaterial at failed ⊢
  dsimp only at failed ⊢
  cases result : (persist primitives (FileVault.opened opened) stored.storage around).1 with
  | error error => exact .of_alike primitives (.refl _) (persist_failed primitives result)
  | ok done =>
    rw [result] at failed
    cases failed

/-- Archiving copies the file and leaves it. -/
theorem archive_capturedBytes (archiving : CryptoResult Unit) (storage : Storage) :
    (storage.archiveBeforeReplacement archiving).2.capturedBytes = storage.capturedBytes := by
  cases storage <;> rfl

theorem storeBundle_changesNothing (bundle recovery : Bytes) (vaultPassphrase : Option Bytes)
    (allowReplacement : Bool) {error : CryptoError}
    (failed : (storeBundle primitives stored around bundle recovery vaultPassphrase allowReplacement).1 =
      .error error) :
    ChangesNothing primitives stored
      (storeBundle primitives stored around bundle recovery vaultPassphrase allowReplacement).2 := by
  unfold storeBundle at failed ⊢
  cases opened : importedMaterial primitives stored.vault around.draws bundle recovery vaultPassphrase
      allowReplacement with
  | error error => exact .of_alike primitives (.refl _) rfl
  | ok material =>
    rw [opened] at failed
    dsimp only at failed ⊢
    have same := archive_capturedBytes around.archiving stored.storage
    cases archived : (stored.storage.archiveBeforeReplacement around.archiving).1 with
    | error error => exact .of_alike primitives (.refl _) same
    | ok done =>
      rw [archived] at failed
      have kept := replaceMaterial_changesNothing failed
      exact ⟨kept.memory, kept.readable.trans same, kept.later⟩

/-- An operation that returns an error changed nothing, exactly unless it is the saving of
a profile that is put in memory and cannot be stored. -/
theorem failed_mutation_changes_nothing (primitives : VaultPrimitives) (stored : StoredVault)
    (around : Surroundings) (mutation : Mutation) :
    (forall error, (mutation.run primitives stored around).1 = .error error ->
      ChangesNothing primitives stored (mutation.run primitives stored around).2) ↔
    ¬ HalfApplied primitives stored around mutation := by
  cases mutation with
  | saveProfile id key => exact saveProfile_changesNothing id key
  | changePassphrase passphrase =>
    constructor
    · intro _ impossible
      exact impossible
    · intro _ error failed
      exact storePassphrase_changesNothing passphrase failed
  | importBundle bundle recovery vaultPassphrase allowReplacement =>
    constructor
    · intro _ impossible
      exact impossible
    · intro _ error failed
      exact storeBundle_changesNothing bundle recovery vaultPassphrase allowReplacement failed

end Failures

/-! ## One profile too many -/

def zeroKey : SecretKey := ⟨List.replicate 32 0, zeros_length⟩

/-- An unlocked vault that is full. -/
def fullVault : StoredVault where
  vault :=
    { unlocked := true
      vaultKey := some zeroKey
      unlockKey := some zeroKey
      vaultSalt := some (List.replicate 16 0)
      profiles := .ofList ((List.range 64).map fun index => (String.ofList [Char.ofNat (index + 48)], zeroKey))
      createdAt := 0 }
  storage := .files ⟨some [], none, none⟩

def quietSurroundings : Surroundings where
  draws := ⟨0, zeroKey, List.replicate 16 0, List.replicate 24 0⟩
  faults := ⟨fun _ => false, []⟩
  archiving := .ok ()

/-- Saving one more profile fails, and then the vault can no longer be exported. -/
theorem failed_save_blocks_export :
    let primitives := sealedPrimitives plainLibrary plainDraws id
    let saved := Mutation.run primitives fullVault quietSurroundings (.saveProfile "new" zeroKey)
    let passphrase := List.replicate 8 0
    saved.1 = .error ⟨.policyRejected, "Too many encryption profiles"⟩ ∧
      (exportBundle primitives fullVault.vault passphrase).isOk = true ∧
      exportBundle primitives saved.2.vault passphrase =
        .error ⟨.policyRejected, "Too many encryption profiles"⟩ ∧
      ¬ ChangesNothing primitives fullVault saved.2 := by
  dsimp only
  refine ⟨by decide +kernel, by decide +kernel, by decide +kernel, fun unchanged => ?_⟩
  have same := unchanged.later.exports (List.replicate 8 0)
  exact absurd same (by decide +kernel)

end Crypto
end TelegramDrive
