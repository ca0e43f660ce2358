import TelegramDrive.SettingsSync.SyncedSettings
import TelegramDrive.Crypto.Sealed
import TelegramDrive.Library.Base64
import TelegramDrive.Library.Decimal
import Mathlib.Data.List.DropRight

namespace TelegramDrive
namespace SettingsSync

open Crypto

/-!
# Backups of settings

A backup is a text message: a prefix and, in Base64, a JSON envelope whose ciphertext
holds the settings.  The key comes from the passphrase and a salt, and the time and the
device of the backup are authenticated with it.

The two JSON codecs are parameters, and so is the cipher.
-/

abbrev Text := List Char

/-- `str::len` -/
def byteLength (text : Text) : Nat := (text.map Char.utf8Size).sum

def utf8 (text : Text) : Bytes := (String.ofList text).toUTF8.data.toList

def messagePrefix : Text := "TDSETTINGS1:".toList
def maxTelegramMessageBytes : Nat := 4000
def messageScanLimit : Nat := 1000
def minPassphraseCharacters : Nat := 12

structure EncryptedSettingsEnvelope where
  version : UInt8
  updatedAt : Int
  deviceId : Text
  salt : Text
  nonce : Text
  ciphertext : Text
deriving DecidableEq

structure SettingsPayload where
  schemaVersion : UInt8
  settings : Settings
deriving DecidableEq

structure SettingsSyncDownload where
  settings : Settings
  updatedAt : Int
  deviceId : Text
deriving DecidableEq

/-- The JSON of an envelope and of a payload. -/
structure Format where
  writeEnvelope : EncryptedSettingsEnvelope -> Bytes
  readEnvelope : Bytes -> Option EncryptedSettingsEnvelope
  writePayload : SettingsPayload -> Bytes
  readPayload : Bytes -> Option SettingsPayload

/-- JSON gives numbers of 64 bits and texts back, and objects of them. -/
structure Format.Lawful (format : Format) : Prop where
  envelope : forall envelope, -(2 ^ 63) ≤ envelope.updatedAt -> envelope.updatedAt < 2 ^ 63 ->
    format.readEnvelope (format.writeEnvelope envelope) = some envelope
  payload : forall version entries, Safe entries ->
    format.readPayload (format.writePayload ⟨version, .object entries⟩) = some ⟨version, .object entries⟩

/-! ## The device -/

/-- The white space that `trim` takes away. -/
def isWhiteSpace (character : Char) : Bool :=
  let code := character.toNat
  decide (9 ≤ code ∧ code ≤ 13) || decide (0x2000 ≤ code ∧ code ≤ 0x200A) ||
    decide (code ∈ [0x20, 0x85, 0xA0, 0x1680, 0x2028, 0x2029, 0x202F, 0x205F, 0x3000])

def trim (text : Text) : Text := (text.dropWhile isWhiteSpace).rdropWhile isWhiteSpace

def isHexDigit (character : Char) : Bool :=
  character.isDigit || decide ('a' ≤ character ∧ character ≤ 'f') || decide ('A' ≤ character ∧ character ≤ 'F')

def hexDigit (number : Nat) : Char := if number < 10 then Char.ofNat (number + 48) else Char.ofNat (number + 87)

/-- The name of a device, and how it is made from drawn bytes when there is none. -/
def deviceId (file : Option Text) (random : Vector UInt8 16) : Text :=
  let fresh := random.toList.flatMap fun byte => [hexDigit (byte.toNat / 16), hexDigit (byte.toNat % 16)]
  match file with
  | some text =>
    let existing := trim text
    if byteLength existing = 32 ∧ existing.all isHexDigit then existing.map Char.toLower else fresh
  | none => fresh

/-! ## Sealing -/

def aad (updatedAt : Int) (deviceId : Text) : Text :=
  "telegram-drive:settings-sync:v1:".toList ++ (Decimal.ofInt updatedAt ++ ':' :: deviceId)

def validatePassphrase (passphrase : Text) : Except String Unit :=
  if passphrase.length < minPassphraseCharacters then
    .error "The sync passphrase must contain at least 12 characters"
  else .ok ()

/-- What a backup is made from, with the salt and the nonce that are drawn for it. -/
structure Request where
  settings : Settings
  passphrase : Text
  deviceId : Text
  updatedAt : Int
  draws : SealDraws

def Request.envelope (request : Request) (ciphertext : Bytes) : EncryptedSettingsEnvelope where
  version := 1
  updatedAt := request.updatedAt
  deviceId := request.deviceId
  salt := Base64Url.encode request.draws.salt
  nonce := Base64Url.encode request.draws.nonce
  ciphertext := Base64Url.encode ciphertext

/-- The name of an error code, as it is displayed. -/
def codeName : CryptoErrorCode -> String
  | .vaultLocked => "VaultLocked"
  | .keyRequired => "KeyRequired"
  | .wrongKeyOrCorrupt => "WrongKeyOrCorrupt"
  | .unsupportedVersion => "UnsupportedVersion"
  | .headerInvalid => "HeaderInvalid"
  | .policyRejected => "PolicyRejected"
  | .authFailed => "AuthFailed"
  | .truncated => "Truncated"
  | .sizeOverflow => "SizeOverflow"
  | .telegramLimit => "TelegramLimit"
  | .internalError => "InternalError"
  | .ioError => "IoError"

section Library

variable (library : CryptoLibrary) (format : Format)

/-- The key of a passphrase and a salt. -/
def settingsKey (passphrase : Text) (salt : Bytes) : Except String SecretKey :=
  match deriveWithFloors library (utf8 passphrase) salt with
  | .error error => .error ("[" ++ codeName error.code ++ "] " ++ error.message)
  | .ok key => .ok key

/-- `encrypt_settings` up to its envelope. -/
def sealSettings (request : Request) : Except String EncryptedSettingsEnvelope := do
  validatePassphrase request.passphrase
  let settings <- sanitizeSettings request.settings
  let payload := format.writePayload ⟨1, settings⟩
  let key <- settingsKey library request.passphrase request.draws.salt
  match library.encrypt key request.draws.nonce (utf8 (aad request.updatedAt request.deviceId)) payload with
  | none => .error "Unable to encrypt settings"
  | some ciphertext => .ok (request.envelope ciphertext)

def encryptSettings (request : Request) : Except String Text := do
  let envelope <- sealSettings library format request
  let message := messagePrefix ++ Base64Url.encode (format.writeEnvelope envelope)
  if maxTelegramMessageBytes < byteLength message then
    .error "Encrypted settings exceed Telegram's safe message size"
  else .ok message

/-! ## Opening -/

def stripPrefix (front text : Text) : Option Text :=
  if front.isPrefixOf text then some (text.drop front.length) else none

def parseEnvelope (message : Text) : Except String EncryptedSettingsEnvelope :=
  match stripPrefix messagePrefix message with
  | none => .error "Not a Telegram Drive settings message"
  | some encoded =>
    match Base64Url.decode true encoded with
    | none => .error "Encrypted settings message is malformed"
    | some bytes =>
      match format.readEnvelope bytes with
      | none => .error "Encrypted settings envelope is malformed"
      | some envelope =>
        if envelope.version ≠ 1 ∨ byteLength envelope.deviceId ≠ 32 then
          .error "Encrypted settings envelope version is unsupported"
        else .ok envelope

/-- The bytes of a field, of which there must be so many. -/
def decodeField (text : Text) (length : Nat) (malformed wrongLength : String) : Except String Bytes :=
  match Base64Url.decode true text with
  | none => .error malformed
  | some bytes => if bytes.length = length then .ok bytes else .error wrongLength

def decryptSettings (message passphrase : Text) : Except String SettingsSyncDownload := do
  validatePassphrase passphrase
  let envelope <- parseEnvelope format message
  let salt <- decodeField envelope.salt 16 "Encrypted settings salt is malformed"
    "Encrypted settings salt has the wrong length"
  let nonce <- decodeField envelope.nonce 24 "Encrypted settings nonce is malformed"
    "Encrypted settings nonce has the wrong length"
  match Base64Url.decode true envelope.ciphertext with
  | none => .error "Encrypted settings payload is malformed"
  | some ciphertext => do
      let key <- settingsKey library passphrase salt
      match library.decrypt key nonce (utf8 (aad envelope.updatedAt envelope.deviceId)) ciphertext with
      | none => .error "The sync passphrase is incorrect or the backup is damaged"
      | some plaintext =>
        match format.readPayload plaintext with
        | none => .error "Decrypted settings payload is malformed"
        | some payload =>
          if payload.schemaVersion ≠ 1 then .error "Decrypted settings schema is unsupported"
          else do
            let settings <- sanitizeSettings payload.settings
            .ok ⟨settings, envelope.updatedAt, envelope.deviceId⟩

end Library

end SettingsSync
end TelegramDrive
