import Std.Data.TreeMap.Lemmas
import Mathlib.Algebra.Group.Int.Defs
import Mathlib.Algebra.GroupWithZero.Nat
import Mathlib.Data.List.Basic

namespace TelegramDrive
namespace Crypto

/-!
# The vault and its preparations

An operation on the vault works on a copy of it.  It may read the vault file
once, when the copy is taken, and leaves the bytes it wants to store for the
commit; what it does in between touches neither the file nor the state.

The file format, the recovery bundle and the key derivation are parameters:
`openFile` stands for parsing and decrypting a vault file, `openBundle` for a
recovery bundle, and so on.  What the operations need of them is only which
material they return.  The serialized payload is written out, because its hash
decides whether two materials are the same.
-/

/-! ## Errors and keys -/

inductive CryptoErrorCode
  | vaultLocked
  | keyRequired
  | wrongKeyOrCorrupt
  | unsupportedVersion
  | headerInvalid
  | policyRejected
  | authFailed
  | truncated
  | sizeOverflow
  | telegramLimit
  | internalError
  | ioError
deriving DecidableEq

structure CryptoError where
  code : CryptoErrorCode
  message : String
deriving DecidableEq

namespace CryptoError

def vaultLocked : CryptoError := ⟨.vaultLocked, "Vault is locked"⟩

def wrongKeyOrCorrupt : CryptoError := ⟨.wrongKeyOrCorrupt, "Wrong key or corrupt data"⟩

def internal (message : String) : CryptoError := ⟨.internalError, message⟩

end CryptoError

abbrev CryptoResult := Except CryptoError

abbrev Bytes := List UInt8

/-- A secret key has 32 bytes. -/
structure SecretKey where
  bytes : Bytes
  length_eq : bytes.length = 32
deriving DecidableEq

/-- What a vault file protects. -/
structure Material where
  createdAt : Int
  vaultKey : SecretKey
  profiles : Std.TreeMap String SecretKey

/-- An opened vault file: its material, and what it was opened with. -/
structure OpenedVault where
  material : Material
  unlockKey : SecretKey
  salt : Bytes

/-- The parts of the vault that this development takes as given. -/
structure VaultPrimitives where
  openFile : (file passphrase : Bytes) -> CryptoResult OpenedVault
  openBundle : (bundle passphrase : Bytes) -> CryptoResult Material
  derivePassphraseKey : (passphrase salt : Bytes) -> CryptoResult SecretKey
  encryptPayloadWithKey : (payload : Bytes) -> (unlockKey : SecretKey) -> (salt nonce : Bytes) ->
    CryptoResult Bytes
  createRecoveryBundle : (payload passphrase : Bytes) -> CryptoResult Bytes
  sha256 : Bytes -> Bytes

/-! ## The payload -/

/-- The low bytes of a number, the least significant first. -/
def toLeBytes : Nat -> Nat -> Bytes
  | 0, _ => []
  | width + 1, value => UInt8.ofNat value :: toLeBytes width (value / 256)

@[simp] theorem toLeBytes_length (width value : Nat) : (toLeBytes width value).length = width := by
  induction width generalizing value with
  | zero => rfl
  | succ width ih => rw [toLeBytes, List.length_cons, ih]

/-- The bytes of `TDVPL2`. -/
def payloadMagic : Bytes := [84, 68, 86, 80, 76, 50]

/-- One profile of the payload, `none` for an identifier that is not allowed. -/
def serializeProfile (profile : String × SecretKey) : CryptoResult Bytes :=
  let id := profile.1.toUTF8.data.toList
  if id.isEmpty ∨ 128 < id.length then
    .error ⟨.policyRejected, "Invalid encryption profile identifier"⟩
  else .ok (toLeBytes 2 id.length ++ id ++ profile.2.bytes)

/-- `serialize_payload`, of an unlocked vault. -/
def serializePayload (material : Material) : CryptoResult Bytes :=
  if 64 < material.profiles.size then .error ⟨.policyRejected, "Too many encryption profiles"⟩
  else do
    let profiles <- material.profiles.toList.mapM serializeProfile
    return payloadMagic ++ (toLeBytes 8 (material.createdAt % 2 ^ 64).toNat ++
      (material.vaultKey.bytes ++ (toLeBytes 2 material.profiles.size ++ profiles.flatten)))

private theorem serializePayload_ok {material : Material} {payload : Bytes}
    (serialized : serializePayload material = .ok payload) :
    Exists fun rest => payload = payloadMagic ++ (toLeBytes 8 (material.createdAt % 2 ^ 64).toNat ++
      (material.vaultKey.bytes ++ rest)) := by
  unfold serializePayload at serialized
  split at serialized
  · cases serialized
  · cases listed : material.profiles.toList.mapM serializeProfile with
    | error error =>
      rw [listed] at serialized
      cases serialized
    | ok profiles =>
      rw [listed] at serialized
      cases serialized
      exact ⟨_, rfl⟩

theorem serializePayload_vaultKey {one two : Material} {payload : Bytes}
    (first : serializePayload one = .ok payload) (second : serializePayload two = .ok payload) :
    one.vaultKey = two.vaultKey := by
  rcases serializePayload_ok first with ⟨rest, rfl⟩
  rcases serializePayload_ok second with ⟨other, same⟩
  have dates := List.append_cancel_left same
  have keys := (List.append_inj dates (by rw [toLeBytes_length, toLeBytes_length])).2
  have bytes := (List.append_inj keys (by rw [one.vaultKey.length_eq, two.vaultKey.length_eq])).1
  cases one with | mk createdAt vaultKey profiles =>
  cases two with | mk otherCreatedAt otherVaultKey otherProfiles =>
  cases vaultKey
  cases otherVaultKey
  cases bytes
  rfl

/-! ## The vault in memory -/

structure FileVault where
  unlocked : Bool
  vaultKey : Option SecretKey
  unlockKey : Option SecretKey
  vaultSalt : Option Bytes
  profiles : Std.TreeMap String SecretKey
  createdAt : Int

namespace FileVault

def new : FileVault where
  unlocked := false
  vaultKey := none
  unlockKey := none
  vaultSalt := none
  profiles := ∅
  createdAt := 0

def lock (vault : FileVault) : FileVault :=
  { vault with unlocked := false, vaultKey := none, unlockKey := none, vaultSalt := none, profiles := ∅ }

def wrappingKey (vault : FileVault) : CryptoResult SecretKey :=
  if !vault.unlocked then .error .vaultLocked
  else match vault.vaultKey with
    | none => .error .vaultLocked
    | some key => .ok key

/-- The material in memory, an error while there is none. -/
def material (vault : FileVault) : CryptoResult Material :=
  match vault.vaultKey with
  | none => .error .vaultLocked
  | some vaultKey => .ok ⟨vault.createdAt, vaultKey, vault.profiles⟩

/-- The vault holding an opened file. -/
def opened (opened : OpenedVault) : FileVault where
  unlocked := true
  vaultKey := some opened.material.vaultKey
  unlockKey := some opened.unlockKey
  vaultSalt := some opened.salt
  profiles := opened.material.profiles
  createdAt := opened.material.createdAt

end FileVault

/-! ## Preparing an operation -/

inductive Operation
  | create (passphrase : Bytes)
  | unlock (passphrase : Bytes)
  | change (current replacement : Bytes)
  | exportRecovery (passphrase : Bytes)
  | verifyRecovery (bundle passphrase : Bytes)
  | importRecovery (bundle recovery : Bytes) (vaultPassphrase : Option Bytes)
      (allowReplacement replaceExisting : Bool)
deriving DecidableEq

inductive Kind
  | create
  | unlock
  | change
  | exportRecovery
  | verifyRecovery
  | importRecovery
deriving DecidableEq

inductive VaultCapture
  | create
  | read
  | replace
  | resident
deriving DecidableEq

namespace Operation

def kind : Operation -> Kind
  | create _ => .create
  | unlock _ => .unlock
  | change _ _ => .change
  | exportRecovery _ => .exportRecovery
  | verifyRecovery _ _ => .verifyRecovery
  | importRecovery _ _ _ _ _ => .importRecovery

def diskAccess : Operation -> VaultCapture
  | create _ => .create
  | unlock _ | change _ _ => .read
  | importRecovery _ _ _ _ _ => .replace
  | exportRecovery _ | verifyRecovery _ _ => .resident

def requiresUnlocked : Operation -> Bool
  | change _ _ | exportRecovery _ | verifyRecovery _ _ | importRecovery _ _ none _ _ => true
  | _ => false

end Operation

structure RecoveryVerification where
  matchesVaultKey : Bool
  missingProfiles : Nat
deriving DecidableEq

def RecoveryVerification.isComplete (verification : RecoveryVerification) : Bool :=
  verification.matchesVaultKey && decide (verification.missingProfiles = 0)

inductive Value
  | unit
  | session (id : UInt64)
  | bundle (bytes : Bytes)
  | verification (verification : RecoveryVerification)
deriving DecidableEq

/-- The copy after an operation, and the bytes it wants to store. -/
structure Prepared where
  vault : FileVault
  pending : Option Bytes
  archive : Bool
  value : Value

/-- The file as it was captured: its bytes if it was read, and whether there was one. -/
structure FileCapture where
  present : Bool
  bytes : Option Bytes
  access : VaultCapture

/-- `capture_preparation_files`, of the readable vault file. -/
def capturePreparationFiles (file : Option Bytes) (access : VaultCapture) : FileCapture :=
  match access with
  | .resident => ⟨false, none, access⟩
  | .read => ⟨file.isSome, file, access⟩
  | .create | .replace => ⟨file.isSome, none, access⟩

/-- What a preparation draws at random, and the time. -/
structure Draws where
  now : Int
  key : SecretKey
  salt : Bytes
  nonce : Bytes

section Preparation

variable (primitives : VaultPrimitives)

/-- `persist_unlocked`: the bytes of the vault file. -/
def persistUnlocked (vault : FileVault) (nonce : Bytes) : CryptoResult Bytes :=
  match vault.unlockKey, vault.vaultSalt with
  | none, _ => .error .vaultLocked
  | some _, none => .error (.internal "Missing vault salt")
  | some unlockKey, some salt => do
      let payload <- serializePayload (<- vault.material)
      primitives.encryptPayloadWithKey payload unlockKey salt nonce

def materialFingerprint (vault : FileVault) : CryptoResult Bytes := do
  let payload <- serializePayload (<- vault.material)
  return primitives.sha256 payload

def createVault (capture : FileCapture) (draws : Draws) (passphrase : Bytes) :
    CryptoResult Prepared :=
  if capture.present then .error ⟨.policyRejected, "A vault already exists"⟩
  else if passphrase.length < 8 then .error ⟨.policyRejected, "Vault passphrase is too short"⟩
  else do
    let unlockKey <- primitives.derivePassphraseKey passphrase draws.salt
    let vault := FileVault.opened ⟨⟨draws.now, draws.key, ∅⟩, unlockKey, draws.salt⟩
    let file <- persistUnlocked primitives vault draws.nonce
    return ⟨vault, some file, false, .unit⟩

def unlockVault (capture : FileCapture) (passphrase : Bytes) : CryptoResult FileVault :=
  match capture.bytes with
  | none => .error ⟨.keyRequired, "Vault does not exist"⟩
  | some file => do return FileVault.opened (<- primitives.openFile file passphrase)

def changePassphrase (vault : FileVault) (draws : Draws) (passphrase : Bytes) :
    CryptoResult Prepared :=
  if !vault.unlocked then .error .vaultLocked
  else if passphrase.length < 8 ∨ 1024 < passphrase.length then
    .error ⟨.policyRejected, "Vault passphrase must be between 8 and 1024 bytes"⟩
  else do
    let unlockKey <- primitives.derivePassphraseKey passphrase draws.salt
    let payload <- serializePayload (<- vault.material)
    let file <- primitives.encryptPayloadWithKey payload unlockKey draws.salt draws.nonce
    return ⟨{ vault with unlockKey := some unlockKey, vaultSalt := some draws.salt }, some file, false,
      .unit⟩

def compareWithUnlocked (vault : FileVault) (bundle : Material) : CryptoResult RecoveryVerification :=
  match vault.vaultKey with
  | none => .error .vaultLocked
  | some vaultKey =>
    .ok
      { matchesVaultKey := decide (vaultKey = bundle.vaultKey)
        missingProfiles := vault.profiles.toList.countP fun profile =>
          decide (bundle.profiles[profile.1]? ≠ some profile.2) }

def exportBundle (vault : FileVault) (passphrase : Bytes) : CryptoResult Bytes :=
  if !vault.unlocked then .error .vaultLocked
  else do primitives.createRecoveryBundle (<- serializePayload (<- vault.material)) passphrase

def verifyBundle (vault : FileVault) (bundle passphrase : Bytes) : CryptoResult RecoveryVerification :=
  if !vault.unlocked then .error .vaultLocked
  else do compareWithUnlocked vault (<- primitives.openBundle bundle passphrase)

/-- The passphrase that will protect the imported material. -/
def importProtection (vault : FileVault) (draws : Draws) :
    Option Bytes -> CryptoResult (SecretKey × Bytes)
  | some passphrase =>
    if passphrase.length < 8 ∨ 1024 < passphrase.length then
      .error ⟨.policyRejected, "Vault passphrase must be between 8 and 1024 bytes"⟩
    else do return (<- primitives.derivePassphraseKey passphrase draws.salt, draws.salt)
  | none =>
    match vault.unlocked, vault.unlockKey, vault.vaultSalt with
    | true, some unlockKey, some salt => .ok (unlockKey, salt)
    | _, _, _ =>
      .error ⟨.keyRequired, "[RECOVERY_VAULT_PASSPHRASE_REQUIRED] Choose the passphrase that will " ++
        "unlock the restored vault"⟩

/-- The bundle has everything the unlocked vault uses, or it may replace it. -/
def importAllowed (vault : FileVault) (bundle : Material) (allowReplacement : Bool) :
    CryptoResult Unit :=
  if vault.unlocked && !allowReplacement then do
    let comparison <- compareWithUnlocked vault bundle
    if comparison.isComplete then return ()
    else
      .error ⟨.policyRejected, "[RECOVERY_BUNDLE_MISMATCH] This recovery bundle does not contain every " ++
        "key the current vault uses. Importing it would make files protected by the missing keys " ++
        "unreadable."⟩
  else .ok ()

def importBundle (vault : FileVault) (draws : Draws) (bundle recovery : Bytes)
    (vaultPassphrase : Option Bytes) (allowReplacement : Bool) : CryptoResult Prepared := do
  let material <- primitives.openBundle bundle recovery
  importAllowed vault material allowReplacement
  let (unlockKey, salt) <- importProtection primitives vault draws vaultPassphrase
  let vault := FileVault.opened ⟨material, unlockKey, salt⟩
  let file <- persistUnlocked primitives vault draws.nonce
  return ⟨vault, some file, true, .unit⟩

/-- `prepare`, on a copy of the vault. -/
def prepare (vault : FileVault) (capture : FileCapture) (draws : Draws) :
    Operation -> CryptoResult Prepared
  | .create passphrase => createVault primitives capture draws passphrase
  | .unlock passphrase => do return ⟨<- unlockVault primitives capture passphrase, none, false, .unit⟩
  | .change current replacement => do
      let material <- materialFingerprint primitives vault
      let reopened <- unlockVault primitives capture current
      if (<- materialFingerprint primitives reopened) = material then
        changePassphrase primitives reopened draws replacement
      else .error .wrongKeyOrCorrupt
  | .exportRecovery passphrase => do
      return ⟨vault, none, false, .bundle (<- exportBundle primitives vault passphrase)⟩
  | .verifyRecovery bundle passphrase => do
      return ⟨vault, none, false, .verification (<- verifyBundle primitives vault bundle passphrase)⟩
  | .importRecovery bundle recovery vaultPassphrase allowReplacement replaceExisting =>
    if capture.present && !replaceExisting then
      .error ⟨.policyRejected, "[RECOVERY_CONFIRMATION_REQUIRED] Import would replace the existing vault"⟩
    else
      importBundle primitives vault draws bundle recovery vaultPassphrase allowReplacement

/-! ## What a preparation returns -/

theorem bind_eq_ok {α β : Type} {first : CryptoResult α} {next : α -> CryptoResult β} {result : β}
    (bound : (first >>= next) = .ok result) :
    Exists fun value => first = .ok value ∧ next value = .ok result := by
  cases first with
  | error error => cases bound
  | ok value => exact ⟨value, rfl, bound⟩

@[simp] theorem opened_wrappingKey (opened : OpenedVault) :
    (FileVault.opened opened).wrappingKey = .ok opened.material.vaultKey := rfl

theorem material_vaultKey {vault : FileVault} {material : Material}
    (held : vault.material = .ok material) : vault.vaultKey = some material.vaultKey := by
  unfold FileVault.material at held
  split at held
  · cases held
  next key present =>
    cases held
    exact present

theorem materialFingerprint_vaultKey (injective : Function.Injective primitives.sha256)
    {one two : FileVault} {fingerprint : Bytes}
    (first : materialFingerprint primitives one = .ok fingerprint)
    (second : materialFingerprint primitives two = .ok fingerprint) :
    Exists fun key => one.vaultKey = some key ∧ two.vaultKey = some key := by
  rcases bind_eq_ok first with ⟨material, held, hashed⟩
  rcases bind_eq_ok hashed with ⟨payload, serialized, digest⟩
  rcases bind_eq_ok second with ⟨other, otherHeld, otherHashed⟩
  rcases bind_eq_ok otherHashed with ⟨otherPayload, otherSerialized, otherDigest⟩
  cases digest
  have same : otherPayload = payload := injective (Except.ok.inj otherDigest)
  rw [same] at otherSerialized
  refine ⟨material.vaultKey, material_vaultKey held, ?_⟩
  rw [serializePayload_vaultKey serialized otherSerialized]
  exact material_vaultKey otherHeld

theorem unlockVault_opened {capture : FileCapture} {passphrase : Bytes} {vault : FileVault}
    (unlocked : unlockVault primitives capture passphrase = .ok vault) :
    Exists fun opened => vault = FileVault.opened opened := by
  unfold unlockVault at unlocked
  split at unlocked
  · cases unlocked
  · rcases bind_eq_ok unlocked with ⟨opened, -, rest⟩
    cases rest
    exact ⟨opened, rfl⟩

/-- Operations that open a session leave an unlocked vault. -/
def Kind.opensSession : Kind -> Bool
  | .create | .unlock | .importRecovery => true
  | _ => false

theorem prepare_opens {vault : FileVault} {capture : FileCapture} {draws : Draws}
    {operation : Operation} {prepared : Prepared} (opens : operation.kind.opensSession = true)
    (done : prepare primitives vault capture draws operation = .ok prepared) :
    Exists fun key => prepared.vault.wrappingKey = .ok key := by
  cases operation with
  | create passphrase =>
    simp only [prepare, createVault] at done
    split at done
    · cases done
    · split at done
      · cases done
      · rcases bind_eq_ok done with ⟨unlockKey, -, rest⟩
        rcases bind_eq_ok rest with ⟨file, -, last⟩
        cases last
        exact ⟨_, opened_wrappingKey _⟩
  | unlock passphrase =>
    rcases bind_eq_ok done with ⟨unlocked, reopened, rest⟩
    rcases unlockVault_opened primitives reopened with ⟨opened, rfl⟩
    cases rest
    exact ⟨_, opened_wrappingKey _⟩
  | importRecovery bundle recovery vaultPassphrase allowReplacement replaceExisting =>
    simp only [prepare] at done
    split at done
    · cases done
    · rcases bind_eq_ok done with ⟨material, -, allowed⟩
      rcases bind_eq_ok allowed with ⟨-, -, protects⟩
      rcases bind_eq_ok protects with ⟨protection, -, stores⟩
      rcases bind_eq_ok stores with ⟨file, -, last⟩
      cases last
      exact ⟨_, opened_wrappingKey _⟩
  | change | exportRecovery | verifyRecovery => cases opens

/-- A changed passphrase protects the key that the vault had. -/
theorem prepare_change (injective : Function.Injective primitives.sha256) {vault : FileVault}
    {capture : FileCapture} {draws : Draws} {current replacement : Bytes} {prepared : Prepared}
    (done : prepare primitives vault capture draws (.change current replacement) = .ok prepared) :
    Exists fun key => vault.vaultKey = some key ∧ prepared.vault.wrappingKey = .ok key := by
  rcases bind_eq_ok done with ⟨fingerprint, before, reopens⟩
  rcases bind_eq_ok reopens with ⟨reopened, unlocked, compares⟩
  rcases bind_eq_ok compares with ⟨other, after, changes⟩
  rcases unlockVault_opened primitives unlocked with ⟨opened, rfl⟩
  split at changes
  next same =>
    rw [same] at after
    rcases materialFingerprint_vaultKey primitives injective before after with ⟨key, held, kept⟩
    refine ⟨key, held, ?_⟩
    unfold changePassphrase at changes
    split at changes
    · cases changes
    · split at changes
      · cases changes
      · rcases bind_eq_ok changes with ⟨unlockKey, -, rest⟩
        rcases bind_eq_ok rest with ⟨material, -, serializes⟩
        rcases bind_eq_ok serializes with ⟨payload, -, encrypts⟩
        rcases bind_eq_ok encrypts with ⟨file, -, last⟩
        cases last
        exact congrArg Except.ok (Option.some.inj kept)
  · cases changes

/-- How the files were found at the commit, and whether they could be written. -/
structure FileCommit where
  unchanged : Bool
  written : Bool

/-- `commit_prepared`. -/
def commitPrepared (access : VaultCapture) (prepared : Prepared) (files : FileCommit) :
    CryptoResult Unit :=
  if access = .resident then .error (.internal "Read-only preparation cannot commit")
  else if !files.unchanged then
    .error ⟨.policyRejected, "VAULT_CHANGED: Vault files changed during preparation"⟩
  else if prepared.pending.isSome && !files.written then .error ⟨.ioError, "IO error"⟩
  else .ok ()

end Preparation

end Crypto
end TelegramDrive
