import TelegramDrive.Crypto.Payload

namespace TelegramDrive
namespace Crypto

/-!
# Vault files and recovery bundles

Both are a payload encrypted under a key that a passphrase gives, behind a header of 64
bytes which is authenticated with it.  They differ in their magic, in the domain of the
authenticated data, in the largest ciphertext, and in the texts of their errors.

Encryption and key derivation are what a library provides; that it opens what it sealed
under the same key is all that is assumed of it.
-/

structure CryptoLibrary where
  encrypt : (key : SecretKey) -> (nonce aad message : Bytes) -> Option Bytes
  decrypt : (key : SecretKey) -> (nonce aad ciphertext : Bytes) -> Option Bytes
  argon2 : (passphrase salt : Bytes) -> (memory iterations parallelism : Nat) -> Except String SecretKey

def aeadTagLength : Nat := 16

/-- What an authenticated cipher does: it opens what it sealed, and adds a tag to it. -/
structure CryptoLibrary.Correct (library : CryptoLibrary) : Prop where
  opens : forall key nonce aad message ciphertext,
    library.encrypt key nonce aad message = some ciphertext ->
    library.decrypt key nonce aad ciphertext = some message
  tagged : forall key nonce aad message ciphertext,
    library.encrypt key nonce aad message = some ciphertext ->
    ciphertext.length = message.length + aeadTagLength

/-! ## Key derivation -/

def argon2MemoryFloor : Nat := 65536
def argon2MemoryCeiling : Nat := 262144
def argon2IterationsFloor : Nat := 3
def argon2IterationsCeiling : Nat := 100
def argon2ParallelismFloor : Nat := 1
def argon2ParallelismCeiling : Nat := 8

def validateArgon2Params (memory iterations parallelism : Nat) : CryptoResult Unit :=
  if memory < argon2MemoryFloor ∨ argon2MemoryCeiling < memory ∨
      iterations < argon2IterationsFloor ∨ argon2IterationsCeiling < iterations ∨
      parallelism < argon2ParallelismFloor ∨ argon2ParallelismCeiling < parallelism then
    .error ⟨.policyRejected, "Argon2 parameters are outside the approved policy range"⟩
  else .ok ()

section Library

variable (library : CryptoLibrary)

def derivePassphraseKey (passphrase salt : Bytes) (memory iterations parallelism : Nat) :
    CryptoResult SecretKey := do
  validateArgon2Params memory iterations parallelism
  match library.argon2 passphrase salt memory iterations parallelism with
  | .error error => .error (.internal ("Argon2 hash failed: " ++ error))
  | .ok key => .ok key

/-- With the parameters that the application writes. -/
def deriveWithFloors (passphrase salt : Bytes) : CryptoResult SecretKey :=
  derivePassphraseKey library passphrase salt argon2MemoryFloor argon2IterationsFloor argon2ParallelismFloor

end Library

/-! ## Headers -/

structure SealedFormat where
  magic : Bytes
  magic_length : magic.length = 6
  domain : String
  maxCiphertext : Nat
  small : maxCiphertext < 256 ^ 4
  invalidMagic : String
  invalidLength : String
  encryptionFailed : String
  lengthMismatch : String

def sealedVersion : Nat := 2
def sealedHeaderSize : Nat := 64

/-- A salt and a nonce, as they are drawn. -/
structure SealDraws where
  salt : Bytes
  nonce : Bytes
  salt_length : salt.length = 16
  nonce_length : nonce.length = 24

structure SealedHeader where
  memory : Nat
  iterations : Nat
  parallelism : Nat
  salt : Bytes
  nonce : Bytes
  ciphertextLength : Nat
deriving DecidableEq

def encodeHeader (format : SealedFormat) (header : SealedHeader) : Bytes :=
  format.magic ++ (toLeBytes 2 sealedVersion ++ (toLeBytes 4 header.memory ++
    (toLeBytes 4 header.iterations ++ (toLeBytes 4 header.parallelism ++
      (header.salt ++ (header.nonce ++ toLeBytes 4 header.ciphertextLength))))))

def slice (bytes : Bytes) (start stop : Nat) : Bytes := (bytes.drop start).take (stop - start)

def parseHeader (format : SealedFormat) (bytes : Bytes) : CryptoResult SealedHeader :=
  if bytes.length < sealedHeaderSize + aeadTagLength then .error truncatedError
  else if slice bytes 0 6 ≠ format.magic then .error ⟨.headerInvalid, format.invalidMagic⟩
  else
    let version := fromLeBytes (slice bytes 6 8)
    if version ≠ sealedVersion then
      .error ⟨.unsupportedVersion, "Unsupported envelope version: " ++ toString version⟩
    else do
      let header : SealedHeader :=
        { memory := fromLeBytes (slice bytes 8 12)
          iterations := fromLeBytes (slice bytes 12 16)
          parallelism := fromLeBytes (slice bytes 16 20)
          salt := slice bytes 20 36
          nonce := slice bytes 36 60
          ciphertextLength := fromLeBytes (slice bytes 60 64) }
      validateArgon2Params header.memory header.iterations header.parallelism
      if header.ciphertextLength < aeadTagLength ∨ format.maxCiphertext < header.ciphertextLength ∨
          bytes.length ≠ sealedHeaderSize + header.ciphertextLength then
        .error ⟨.headerInvalid, format.invalidLength⟩
      else .ok header

theorem slice_append (before : Bytes) {field rest : Bytes} {start stop : Nat} (starts : before.length = start)
    (stops : start + field.length = stop) : slice (before ++ (field ++ rest)) start stop = field := by
  unfold slice
  rw [List.drop_left' starts, List.take_left' (by omega)]

/-- A header is read as it was written, with whatever stands behind it. -/
theorem slices_encodeHeader (format : SealedFormat) (header : SealedHeader) (ciphertext : Bytes)
    (salt : header.salt.length = 16) (nonce : header.nonce.length = 24) :
    let bytes := encodeHeader format header ++ ciphertext
    slice bytes 0 6 = format.magic ∧ slice bytes 6 8 = toLeBytes 2 sealedVersion ∧
      slice bytes 8 12 = toLeBytes 4 header.memory ∧ slice bytes 12 16 = toLeBytes 4 header.iterations ∧
      slice bytes 16 20 = toLeBytes 4 header.parallelism ∧ slice bytes 20 36 = header.salt ∧
      slice bytes 36 60 = header.nonce ∧ slice bytes 60 64 = toLeBytes 4 header.ciphertextLength ∧
      bytes.length = sealedHeaderSize + ciphertext.length := by
  dsimp only
  have whole : encodeHeader format header ++ ciphertext =
      format.magic ++ (toLeBytes 2 sealedVersion ++ (toLeBytes 4 header.memory ++
        (toLeBytes 4 header.iterations ++ (toLeBytes 4 header.parallelism ++
          (header.salt ++ (header.nonce ++ (toLeBytes 4 header.ciphertextLength ++ ciphertext))))))) := by
    unfold encodeHeader
    simp only [List.append_assoc]
  have magic := format.magic_length
  rw [whole]
  refine ⟨?_, ?_, ?_, ?_, ?_, ?_, ?_, ?_, ?_⟩
  · exact slice_append [] rfl (by rw [magic])
  · exact slice_append _ magic (by rw [toLeBytes_length])
  · rw [← List.append_assoc format.magic]
    exact slice_append _ (by rw [List.length_append, magic, toLeBytes_length]) (by rw [toLeBytes_length])
  · rw [← List.append_assoc format.magic, ← List.append_assoc (format.magic ++ _)]
    exact slice_append _ (by simp only [List.length_append, magic, toLeBytes_length]) (by rw [toLeBytes_length])
  · rw [← List.append_assoc format.magic, ← List.append_assoc (format.magic ++ _),
      ← List.append_assoc (format.magic ++ _ ++ _)]
    exact slice_append _ (by simp only [List.length_append, magic, toLeBytes_length]) (by rw [toLeBytes_length])
  · rw [← List.append_assoc format.magic, ← List.append_assoc (format.magic ++ _),
      ← List.append_assoc (format.magic ++ _ ++ _), ← List.append_assoc (format.magic ++ _ ++ _ ++ _)]
    exact slice_append _ (by simp only [List.length_append, magic, toLeBytes_length]) (by rw [salt])
  · rw [← List.append_assoc format.magic, ← List.append_assoc (format.magic ++ _),
      ← List.append_assoc (format.magic ++ _ ++ _), ← List.append_assoc (format.magic ++ _ ++ _ ++ _),
      ← List.append_assoc (format.magic ++ _ ++ _ ++ _ ++ _)]
    exact slice_append _ (by simp only [List.length_append, magic, toLeBytes_length, salt]) (by rw [nonce])
  · rw [← List.append_assoc format.magic, ← List.append_assoc (format.magic ++ _),
      ← List.append_assoc (format.magic ++ _ ++ _), ← List.append_assoc (format.magic ++ _ ++ _ ++ _),
      ← List.append_assoc (format.magic ++ _ ++ _ ++ _ ++ _),
      ← List.append_assoc (format.magic ++ _ ++ _ ++ _ ++ _ ++ _)]
    exact slice_append _ (by simp only [List.length_append, magic, toLeBytes_length, salt, nonce])
      (by rw [toLeBytes_length])
  · simp only [List.length_append, magic, toLeBytes_length, salt, nonce, sealedHeaderSize]
    omega

/-! ## Sealing and opening -/

section Sealing

variable (library : CryptoLibrary) (format : SealedFormat)

/-- The header of what is sealed now. -/
def sealHeader (payload : Bytes) (salt nonce : Bytes) : SealedHeader :=
  ⟨argon2MemoryFloor, argon2IterationsFloor, argon2ParallelismFloor, salt, nonce, payload.length + aeadTagLength⟩

def authenticated (header : Bytes) : Bytes := format.domain.toUTF8.data.toList ++ header

def sealPayload (payload : Bytes) (key : SecretKey) (salt nonce : Bytes) : CryptoResult Bytes :=
  let header := encodeHeader format (sealHeader payload salt nonce)
  match library.encrypt key nonce (authenticated format header) payload with
  | none => .error (.internal format.encryptionFailed)
  | some ciphertext =>
    if ciphertext.length ≠ payload.length + aeadTagLength then .error (.internal format.lengthMismatch)
    else .ok (header ++ ciphertext)

/-- What a passphrase opens, with the key and the salt it was sealed under. -/
structure Opened where
  payload : Bytes
  key : SecretKey
  salt : Bytes

def openSealed (bytes passphrase : Bytes) : CryptoResult Opened := do
  let header <- parseHeader format bytes
  let key <- derivePassphraseKey library passphrase header.salt header.memory header.iterations header.parallelism
  match library.decrypt key header.nonce (authenticated format (bytes.take sealedHeaderSize))
      (bytes.drop sealedHeaderSize) with
  | none => .error .wrongKeyOrCorrupt
  | some payload => .ok ⟨payload, key, header.salt⟩

variable {library format}

theorem encodeHeader_length (header : SealedHeader) (salt : header.salt.length = 16)
    (nonce : header.nonce.length = 24) : (encodeHeader format header).length = sealedHeaderSize := by
  unfold encodeHeader
  simp only [List.length_append, format.magic_length, toLeBytes_length, salt, nonce, sealedHeaderSize]

theorem parseHeader_encoded {payload ciphertext : Bytes} (draws : SealDraws)
    (length : ciphertext.length = payload.length + aeadTagLength)
    (small : payload.length + aeadTagLength ≤ format.maxCiphertext) :
    parseHeader format (encodeHeader format (sealHeader payload draws.salt draws.nonce) ++ ciphertext) =
      .ok (sealHeader payload draws.salt draws.nonce) := by
  rcases slices_encodeHeader format (sealHeader payload draws.salt draws.nonce) ciphertext draws.salt_length
    draws.nonce_length with ⟨magic, version, memory, iterations, parallelism, salt, nonce, sizes, whole⟩
  have bound : payload.length + aeadTagLength < 256 ^ 4 := Nat.lt_of_le_of_lt small format.small
  have two : fromLeBytes (toLeBytes 2 sealedVersion) = sealedVersion := by decide
  have floors : fromLeBytes (toLeBytes 4 argon2MemoryFloor) = argon2MemoryFloor ∧
      fromLeBytes (toLeBytes 4 argon2IterationsFloor) = argon2IterationsFloor ∧
      fromLeBytes (toLeBytes 4 argon2ParallelismFloor) = argon2ParallelismFloor := by decide
  have accepted : validateArgon2Params argon2MemoryFloor argon2IterationsFloor argon2ParallelismFloor = .ok () :=
    by rfl
  have long : ¬ (encodeHeader format (sealHeader payload draws.salt draws.nonce) ++ ciphertext).length <
      sealedHeaderSize + aeadTagLength := by
    rw [whole, length]
    omega
  have sized : fromLeBytes (toLeBytes 4 (payload.length + aeadTagLength)) = payload.length + aeadTagLength :=
    fromLeBytes_toLeBytes 4 _ bound
  unfold parseHeader
  rw [if_neg long, magic, if_neg (fun other => other rfl), version, two]
  dsimp only
  rw [if_neg (fun other => other rfl), memory, iterations, parallelism, salt, nonce, sizes, whole, length]
  simp only [sealHeader, floors.1, floors.2.1, floors.2.2, sized]
  rw [accepted]
  show (if _ then _ else _) = _
  rw [if_neg]
  rintro (short | large | other)
  · omega
  · omega
  · exact other rfl

/-- The passphrase whose key sealed a payload opens it again. -/
theorem openSealed_sealed (correct : library.Correct) {payload passphrase sealedBytes : Bytes} {key : SecretKey}
    (draws : SealDraws) (derived : deriveWithFloors library passphrase draws.salt = .ok key)
    (small : payload.length + aeadTagLength ≤ format.maxCiphertext)
    (done : sealPayload library format payload key draws.salt draws.nonce = .ok sealedBytes) :
    openSealed library format sealedBytes passphrase = .ok ⟨payload, key, draws.salt⟩ := by
  unfold sealPayload at done
  dsimp only at done
  split at done
  · cases done
  next ciphertext encrypted =>
    have length := correct.tagged _ _ _ _ _ encrypted
    rw [if_neg (fun other => other length), Except.ok.injEq] at done
    rw [← done]
    have header : (encodeHeader format (sealHeader payload draws.salt draws.nonce)).length = sealedHeaderSize :=
      encodeHeader_length _ draws.salt_length draws.nonce_length
    unfold openSealed
    rw [parseHeader_encoded draws length small]
    show (derivePassphraseKey library passphrase draws.salt _ _ _ >>= _) = _
    rw [show derivePassphraseKey library passphrase draws.salt (sealHeader payload draws.salt draws.nonce).memory
      (sealHeader payload draws.salt draws.nonce).iterations
      (sealHeader payload draws.salt draws.nonce).parallelism = .ok key from derived]
    show (match library.decrypt key draws.nonce _ _ with | none => _ | some payload => _) = _
    rw [List.take_left' header, List.drop_left' header, correct.opens _ _ _ _ _ encrypted]
    rfl

end Sealing

/-! ## The two formats -/

def vaultFormat : SealedFormat where
  magic := [84, 68, 86, 76, 84, 50]
  magic_length := rfl
  domain := "telegram-drive:persistent-vault:v2"
  maxCiphertext := 1024 * 1024
  small := by decide
  invalidMagic := "Invalid vault magic"
  invalidLength := "Invalid vault ciphertext length"
  encryptionFailed := "Vault encryption failed"
  lengthMismatch := "Vault ciphertext length mismatch"

def maxRecoveryPayload : Nat := 1024 * 1024

def recoveryFormat : SealedFormat where
  magic := [84, 68, 82, 69, 67, 50]
  magic_length := rfl
  domain := "telegram-drive:recovery-bundle:v2"
  maxCiphertext := maxRecoveryPayload + aeadTagLength
  small := by decide
  invalidMagic := "Invalid recovery magic"
  invalidLength := "Invalid recovery ciphertext length"
  encryptionFailed := "Recovery export encryption failed"
  lengthMismatch := "Recovery ciphertext length mismatch"

section Formats

variable (library : CryptoLibrary)

def createRecoveryBundle (draws : SealDraws) (payload passphrase : Bytes) : CryptoResult Bytes :=
  if payload = [] ∨ maxRecoveryPayload < payload.length then
    .error ⟨.policyRejected, "Recovery payload is outside policy"⟩
  else if passphrase.length < 8 then .error ⟨.policyRejected, "Recovery passphrase is too short"⟩
  else do
    let key <- deriveWithFloors library passphrase draws.salt
    sealPayload library recoveryFormat payload key draws.salt draws.nonce

def importRecoveryBundle (bundle passphrase : Bytes) : CryptoResult Bytes := do
  return (<- openSealed library recoveryFormat bundle passphrase).payload

/-- `unlock`, of the bytes that were captured. -/
def openVaultFile (file passphrase : Bytes) : CryptoResult OpenedVault := do
  let opened <- openSealed library vaultFormat file passphrase
  return ⟨<- parsePayload opened.payload, opened.key, opened.salt⟩

/-- The primitives of the vault, with what is drawn for a bundle. -/
def sealedPrimitives (draws : SealDraws) (sha256 : Bytes -> Bytes) : VaultPrimitives where
  openFile := openVaultFile library
  openBundle bundle passphrase := do parsePayload (<- importRecoveryBundle library bundle passphrase)
  derivePassphraseKey := deriveWithFloors library
  encryptPayloadWithKey := sealPayload library vaultFormat
  createRecoveryBundle := createRecoveryBundle library draws
  sha256 := sha256

variable {library}

theorem importRecoveryBundle_created (correct : library.Correct) {draws : SealDraws}
    {payload passphrase bundle : Bytes} (created : createRecoveryBundle library draws payload passphrase = .ok bundle) :
    importRecoveryBundle library bundle passphrase = .ok payload := by
  unfold createRecoveryBundle at created
  split at created
  · cases created
  next allowed =>
    split at created
    · cases created
    · rcases bind_eq_ok created with ⟨key, derived, done⟩
      have small : payload.length + aeadTagLength ≤ recoveryFormat.maxCiphertext :=
        Nat.add_le_add_right (Nat.le_of_not_lt fun large => allowed (Or.inr large)) _
      unfold importRecoveryBundle
      rw [openSealed_sealed correct draws derived small done]
      rfl

end Formats
/-! ## A library without secrecy -/

theorem zeros_length : (List.replicate 32 (0 : UInt8)).length = 32 := List.length_replicate

/-- It adds an empty tag and derives one key, which is enough to follow a call by hand. -/
def plainLibrary : CryptoLibrary where
  encrypt _ _ _ message := some (message ++ List.replicate aeadTagLength 0)
  decrypt _ _ _ ciphertext :=
    if aeadTagLength ≤ ciphertext.length then some (ciphertext.take (ciphertext.length - aeadTagLength)) else none
  argon2 _ _ _ _ _ := .ok ⟨List.replicate 32 0, zeros_length⟩

theorem plainLibrary_correct : plainLibrary.Correct := by
  constructor
  · intro key nonce aad message ciphertext encrypted
    cases encrypted
    show (if _ then _ else _) = _
    rw [List.length_append, List.length_replicate, if_pos (Nat.le_add_left _ _), Nat.add_sub_cancel,
      List.take_left' rfl]
  · intro key nonce aad message ciphertext encrypted
    cases encrypted
    rw [List.length_append, List.length_replicate]

def plainDraws : SealDraws where
  salt := List.replicate 16 0
  nonce := List.replicate 24 0
  salt_length := List.length_replicate
  nonce_length := List.length_replicate

end Crypto
end TelegramDrive
