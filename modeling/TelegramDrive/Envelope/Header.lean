import TelegramDrive.Crypto.Sealed
import TelegramDrive.Library.ArrayAccess

namespace TelegramDrive
namespace Envelope

open Crypto ArrayAccess

/-!
# The header of an envelope

A header has a core of 98 bytes, a table of key slots of 104 bytes each, and metadata that
is encrypted when there is any.  It is read by position: each access to the bytes is one
that stops the program when it is out of bounds, and each number is taken as it stands and
checked afterwards.  It is written by putting the fields one behind the other.

Key derivation, the cipher and the authenticator are what a library provides.
-/

/-! ## Errors and policy -/

def unsupportedVersion (version : UInt16) : CryptoError :=
  ⟨.unsupportedVersion, "Unsupported envelope version: " ++ toString version.toNat⟩

def headerInvalid (detail : String) : CryptoError := ⟨.headerInvalid, detail⟩

def authFailed : CryptoError := ⟨.authFailed, "Authentication failed"⟩

def sizeOverflow : CryptoError := ⟨.sizeOverflow, "Size overflow"⟩

/-- The bytes of `TDENC2`. -/
def magic : Bytes := [84, 68, 69, 78, 67, 50]

/-- The bytes of `TDENC1`, a prototype that is never read as an envelope. -/
def experimentalTdenc1Magic : Bytes := [84, 68, 69, 78, 67, 49]

def formatVersion : UInt16 := 2
def cipherSuiteXchacha20Poly1305 : UInt16 := 1
def minChunkSize : UInt32 := 65536
def maxChunkSize : UInt32 := 16777216
def maxKeySlots : Nat := 8
def maxHeaderLength : Nat := 65536
def maxMetadataLength : Nat := 65536
def coreHeaderSize : Nat := 98
def corePrefixSize : Nat := 66
def keySlotSize : Nat := 104
def metadataNonceIndex : UInt64 := 18446744073709551615

inductive SlotKind
  | vault
  | passphrase
  | recoveryKey

def SlotKind.byte : SlotKind -> UInt8
  | .vault => 1
  | .passphrase => 2
  | .recoveryKey => 3

inductive KdfAlgorithm
  | argon2id
  | hkdfSha256

def KdfAlgorithm.word : KdfAlgorithm -> UInt16
  | .argon2id => 1
  | .hkdfSha256 => 2

def validateChunkSize (size : UInt32) : CryptoResult UInt32 :=
  if minChunkSize ≤ size ∧ size ≤ maxChunkSize then .ok size
  else
    .error ⟨.policyRejected, "Chunk size " ++ toString size.toNat ++ " outside range [" ++
      toString minChunkSize.toNat ++ ", " ++ toString maxChunkSize.toNat ++ "]"⟩

/-- Addition of sizes, which have 64 bits. -/
def checkedAdd (first second : Nat) : Option Nat := if first + second < 2 ^ 64 then some (first + second) else none

/-! ## Numbers at a position -/

abbrev Reading := Checked CryptoError

def u16At (data : Bytes) (offset : Nat) : Reading UInt16 := do
  return UInt16.ofNat (fromLeBytes (<- elements data offset 2))

def u32At (data : Bytes) (offset : Nat) : Reading UInt32 := do
  return UInt32.ofNat (fromLeBytes (<- elements data offset 4))

def u64At (data : Bytes) (offset : Nat) : Reading UInt64 := do
  return UInt64.ofNat (fromLeBytes (<- elements data offset 8))

/-! ## The core -/

@[ext]
structure CoreHeader where
  formatVersion : UInt16
  fileUuid : List.Vector UInt8 16
  cipherSuite : UInt16
  headerLength : UInt32
  chunkSize : UInt32
  keySlotTableLength : UInt32
  encryptedMetadataLength : UInt32
  totalPlaintextLength : UInt64
  noncePrefix : List.Vector UInt8 16
  headerAuthenticator : List.Vector UInt8 32
deriving DecidableEq

def CoreHeader.parse (data : Bytes) : Reading CoreHeader := do
  Checked.require (coreHeaderSize ≤ data.length) truncatedError
  Checked.require ((<- slice data 0 6) ≠ experimentalTdenc1Magic) (unsupportedVersion 1)
  Checked.require ((<- slice data 0 6) = magic) (headerInvalid "Invalid envelope magic")
  let version <- u16At data 6
  Checked.require (version = Envelope.formatVersion) (unsupportedVersion version)
  let cipherSuite <- u16At data 24
  Checked.require (cipherSuite = cipherSuiteXchacha20Poly1305) (headerInvalid "Unsupported cipher suite")
  let headerLength <- u32At data 26
  Checked.require (coreHeaderSize ≤ headerLength.toNat ∧ headerLength.toNat ≤ maxHeaderLength)
    (headerInvalid "Header length is outside policy")
  let chunkSize <- Checked.ofExcept (validateChunkSize (<- u32At data 30))
  let keySlotTableLength <- u32At data 34
  Checked.require (¬ (keySlotTableLength = 0 ∨ keySlotTableLength.toNat % keySlotSize ≠ 0 ∨
    maxKeySlots * keySlotSize < keySlotTableLength.toNat)) (headerInvalid "Invalid key-slot table length")
  let encryptedMetadataLength <- u32At data 38
  Checked.require (¬ (encryptedMetadataLength ≠ 0 ∧ (encryptedMetadataLength.toNat < aeadTagLength ∨
    maxMetadataLength + aeadTagLength < encryptedMetadataLength.toNat)))
    (headerInvalid "Invalid encrypted metadata length")
  let expectedHeaderLength <- Checked.ofOption sizeOverflow
    ((checkedAdd coreHeaderSize keySlotTableLength.toNat).bind fun value =>
      checkedAdd value encryptedMetadataLength.toNat)
  Checked.require (expectedHeaderLength = headerLength.toNat)
    (headerInvalid "Header component lengths do not match complete header length")
  let fileUuid <- copyFromSlice 16 (<- slice data 8 24)
  let noncePrefix <- copyFromSlice 16 (<- slice data 50 66)
  let headerAuthenticator <- copyFromSlice 32 (<- slice data 66 98)
  let totalPlaintextLength <- u64At data 42
  return ⟨version, fileUuid, cipherSuite, headerLength, chunkSize, keySlotTableLength, encryptedMetadataLength,
    totalPlaintextLength, noncePrefix, headerAuthenticator⟩

/-- The fields of the prefix, in the order in which they are written. -/
def CoreHeader.prefixFields (core : CoreHeader) : List Bytes :=
  [magic, toLeBytes 2 core.formatVersion.toNat, core.fileUuid.toList, toLeBytes 2 core.cipherSuite.toNat,
    toLeBytes 4 core.headerLength.toNat, toLeBytes 4 core.chunkSize.toNat,
    toLeBytes 4 core.keySlotTableLength.toNat, toLeBytes 4 core.encryptedMetadataLength.toNat,
    toLeBytes 8 core.totalPlaintextLength.toNat, core.noncePrefix.toList]

def CoreHeader.encodePrefix (core : CoreHeader) : Bytes := core.prefixFields.flatten

/-! ## Key slots -/

@[ext]
structure KeySlotEntry where
  kind : UInt8
  slotId : UInt8
  kdfAlgorithm : UInt16
  argon2MemoryKib : UInt32
  argon2Iterations : UInt32
  argon2Parallelism : UInt32
  salt : List.Vector UInt8 16
  wrapNonce : List.Vector UInt8 24
  wrappedDek : List.Vector UInt8 48
deriving DecidableEq

namespace KeySlotEntry

/-- The check of a slot whose key is not made from a passphrase. -/
def withoutArgon2 (slot : KeySlotEntry) (unexpected : String) : CryptoResult Unit :=
  if slot.argon2MemoryKib ≠ 0 ∨ slot.argon2Iterations ≠ 0 ∨ slot.argon2Parallelism ≠ 0 then
    .error (headerInvalid unexpected)
  else .ok ()

def validate (slot : KeySlotEntry) : CryptoResult Unit :=
  if slot.kind = SlotKind.vault.byte ∧ slot.kdfAlgorithm = KdfAlgorithm.hkdfSha256.word then
    slot.withoutArgon2 "Vault slot contains unexpected Argon2 parameters"
  else if slot.kind = SlotKind.passphrase.byte ∧ slot.kdfAlgorithm = KdfAlgorithm.argon2id.word then
    validateArgon2Params slot.argon2MemoryKib.toNat slot.argon2Iterations.toNat slot.argon2Parallelism.toNat
  else if slot.kind = SlotKind.recoveryKey.byte ∧ slot.kdfAlgorithm = KdfAlgorithm.hkdfSha256.word then
    slot.withoutArgon2 "Recovery slot contains unexpected Argon2 parameters"
  else .error (headerInvalid "Unsupported key-slot kind or KDF combination")

def parse (data : Bytes) (offset : Nat) : Reading KeySlotEntry := do
  let stop <- Checked.ofOption sizeOverflow (checkedAdd offset keySlotSize)
  Checked.require (stop ≤ data.length) truncatedError
  let slot <- slice data offset stop
  let salt <- copyFromSlice 16 (<- slice slot 16 32)
  let wrapNonce <- copyFromSlice 24 (<- slice slot 32 56)
  let wrappedDek <- copyFromSlice 48 (<- slice slot 56 104)
  let kind <- element slot 0
  let slotId <- element slot 1
  let kdfAlgorithm <- u16At slot 2
  let argon2MemoryKib <- u32At slot 4
  let argon2Iterations <- u32At slot 8
  let argon2Parallelism <- u32At slot 12
  let parsed : KeySlotEntry := ⟨kind, slotId, kdfAlgorithm, argon2MemoryKib, argon2Iterations, argon2Parallelism,
    salt, wrapNonce, wrappedDek⟩
  let _ <- Checked.ofExcept parsed.validate
  return parsed

/-- The fields of a slot, in the order in which they are written. -/
def fields (slot : KeySlotEntry) : List Bytes :=
  [[slot.kind], [slot.slotId], toLeBytes 2 slot.kdfAlgorithm.toNat, toLeBytes 4 slot.argon2MemoryKib.toNat,
    toLeBytes 4 slot.argon2Iterations.toNat, toLeBytes 4 slot.argon2Parallelism.toNat, slot.salt.toList,
    slot.wrapNonce.toList, slot.wrappedDek.toList]

def encode (slot : KeySlotEntry) : CryptoResult Bytes := do
  slot.validate
  return slot.fields.flatten

end KeySlotEntry

/-! ## The complete header -/

@[ext]
structure EnvelopeHeader where
  core : CoreHeader
  keySlots : List KeySlotEntry
  encryptedMetadata : Bytes
  rawHeader : Bytes
deriving DecidableEq

/-- The loop over the slots, with the identifiers and the slots so far. -/
def parseSlots (data : Bytes) : Nat -> Nat -> List UInt8 -> List KeySlotEntry -> Reading (List KeySlotEntry)
  | 0, _, _, keySlots => .returned keySlots
  | count + 1, index, slotIds, keySlots => do
      let slot <- KeySlotEntry.parse data (coreHeaderSize + index * keySlotSize)
      Checked.require (slot.slotId ∉ slotIds) (headerInvalid "Duplicate key-slot ID")
      parseSlots data count (index + 1) (slot.slotId :: slotIds) (keySlots ++ [slot])

def EnvelopeHeader.parse (data : Bytes) : Reading EnvelopeHeader := do
  let core <- CoreHeader.parse data
  let completeLength := core.headerLength.toNat
  Checked.require (completeLength ≤ data.length) truncatedError
  let slotCount := core.keySlotTableLength.toNat / keySlotSize
  let keySlots <- parseSlots data slotCount 0 [] []
  let metadataOffset := coreHeaderSize + core.keySlotTableLength.toNat
  let metadataEnd <- Checked.ofOption sizeOverflow (checkedAdd metadataOffset core.encryptedMetadataLength.toNat)
  Checked.require (¬ (metadataEnd ≠ completeLength ∨ data.length < metadataEnd)) truncatedError
  let encryptedMetadata <- slice data metadataOffset metadataEnd
  let rawHeader <- slice data 0 completeLength
  return ⟨core, keySlots, encryptedMetadata, rawHeader⟩

/-! ## Writing a header -/

/-- What the crates for the cipher, the authenticator, the hash and key derivation compute. -/
structure EnvelopeLibrary where
  encrypt : (key : SecretKey) -> (nonce aad message : Bytes) -> Option Bytes
  decrypt : (key : SecretKey) -> (nonce aad ciphertext : Bytes) -> Option Bytes
  hmacSha256 : (key : SecretKey) -> (message : Bytes) -> List.Vector UInt8 32
  sha256 : (message : Bytes) -> List.Vector UInt8 32
  deriveDomainKey32 : (key : SecretKey) -> (domain : String) -> CryptoResult SecretKey

def headerMacDomain : Bytes := "telegram-drive:tdenc2:header-mac".toUTF8.data.toList
def metadataAadDomain : Bytes := "telegram-drive:tdenc2:metadata".toUTF8.data.toList

namespace Domains

def metadataEnc : String := "telegram-drive:metadata-enc:v2"
def contentEnc : String := "telegram-drive:content-enc:v2"
def headerAuth : String := "telegram-drive:header-auth:v2"

end Domains

def recordNonce (noncePrefix : List.Vector UInt8 16) (index : UInt64) : Bytes :=
  noncePrefix.toList ++ toLeBytes 8 index.toNat

/-- The loop over the slots to write, with the identifiers and the bytes so far. -/
def encodeSlots : List KeySlotEntry -> List UInt8 -> Bytes -> CryptoResult Bytes
  | [], _, slotBytes => .ok slotBytes
  | slot :: others, slotIds, slotBytes =>
    if slot.slotId ∈ slotIds then .error (headerInvalid "Duplicate key-slot ID")
    else do encodeSlots others (slot.slotId :: slotIds) (slotBytes ++ (<- slot.encode))

section Build

variable (library : EnvelopeLibrary)

/-- The metadata of a header, encrypted with the prefix and the slots as authenticated data. -/
def encryptMetadata (dek : SecretKey) (noncePrefix : List.Vector UInt8 16)
    (corePrefix slotBytes metadataPlaintext : Bytes) : CryptoResult Bytes :=
  if metadataPlaintext = [] then .ok []
  else do
    let metadataKey <- library.deriveDomainKey32 dek Domains.metadataEnc
    match library.encrypt metadataKey (recordNonce noncePrefix metadataNonceIndex)
        (metadataAadDomain ++ corePrefix ++ slotBytes) metadataPlaintext with
    | none => .error (.internal "Metadata encryption failed")
    | some ciphertext => .ok ciphertext

def headerMac (dek : SecretKey) (corePrefix slotBytes encryptedMetadata : Bytes) :
    CryptoResult (List.Vector UInt8 32) := do
  let headerKey <- library.deriveDomainKey32 dek Domains.headerAuth
  return library.hmacSha256 headerKey (headerMacDomain ++ corePrefix ++ slotBytes ++ encryptedMetadata)

/-- What a header is built from. -/
structure HeaderInputs where
  fileUuid : List.Vector UInt8 16
  chunkSize : UInt32
  keySlots : List KeySlotEntry
  metadataPlaintext : Bytes
  totalPlaintextLength : UInt64
  noncePrefix : List.Vector UInt8 16
  dek : SecretKey

def metadataCiphertextLength (metadataPlaintext : Bytes) : CryptoResult Nat :=
  if metadataPlaintext = [] then .ok 0
  else
    match checkedAdd metadataPlaintext.length aeadTagLength with
    | some length => .ok length
    | none => .error sizeOverflow

/-- The core as it is authenticated, before there is an authenticator. -/
def HeaderInputs.core (inputs : HeaderInputs) (completeHeaderLength slotBytes metadataLength : Nat) : CoreHeader where
  formatVersion := Envelope.formatVersion
  fileUuid := inputs.fileUuid
  cipherSuite := cipherSuiteXchacha20Poly1305
  headerLength := UInt32.ofNat completeHeaderLength
  chunkSize := inputs.chunkSize
  keySlotTableLength := UInt32.ofNat slotBytes
  encryptedMetadataLength := UInt32.ofNat metadataLength
  totalPlaintextLength := inputs.totalPlaintextLength
  noncePrefix := inputs.noncePrefix
  headerAuthenticator := List.Vector.replicate 32 0

def EnvelopeHeader.build (inputs : HeaderInputs) : CryptoResult Bytes := do
  let _ <- validateChunkSize inputs.chunkSize
  if inputs.keySlots = [] ∨ maxKeySlots < inputs.keySlots.length then
    .error (headerInvalid "Invalid key-slot count")
  else if maxMetadataLength < inputs.metadataPlaintext.length then
    .error (headerInvalid "Metadata exceeds policy")
  else
    let slotBytes <- encodeSlots inputs.keySlots [] []
    let metadataLength <- metadataCiphertextLength inputs.metadataPlaintext
    match (checkedAdd coreHeaderSize slotBytes.length).bind fun value => checkedAdd value metadataLength with
    | none => .error sizeOverflow
    | some completeHeaderLength =>
      if maxHeaderLength < completeHeaderLength then .error (headerInvalid "Header exceeds policy")
      else
        let corePrefix := (inputs.core completeHeaderLength slotBytes.length metadataLength).encodePrefix
        let encryptedMetadata <-
          encryptMetadata library inputs.dek inputs.noncePrefix corePrefix slotBytes inputs.metadataPlaintext
        if encryptedMetadata.length ≠ metadataLength then
          .error (.internal "Metadata ciphertext length did not match declaration")
        else
          let authenticator <- headerMac library inputs.dek corePrefix slotBytes encryptedMetadata
          return corePrefix ++ authenticator.toList ++ slotBytes ++ encryptedMetadata

end Build

end Envelope
end TelegramDrive
