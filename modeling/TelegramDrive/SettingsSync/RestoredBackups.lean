import TelegramDrive.SettingsSync.Backups

namespace TelegramDrive
namespace SettingsSync

open Crypto

/-!
# Backups that are opened

A message that was sealed opens, under its passphrase, to the settings, the time and the
device that it was made from.  A message that opens carries the envelope of a backup that
was made under that passphrase.  What the second needs of the cipher and the derivation of
keys is that they are ideal for the backups that were made.
-/

/-! ## Texts -/

theorem utf8_injective {one two : Text} (same : utf8 one = utf8 two) : one = two := by
  unfold utf8 at same
  have arrays := ByteArray.ext (Array.toList_inj.mp same)
  have strings : String.ofList one = String.ofList two := String.toByteArray_inj.mp arrays
  have lists := congrArg String.toList strings
  rwa [String.toList_ofList, String.toList_ofList] at lists

theorem aad_injective {time other : Int} {device rest : Text} (same : aad time device = aad other rest) :
    time = other ∧ device = rest := by
  have tails := List.append_cancel_left same
  have colon := @Decimal.notMem_ofInt ':' (by decide) (by decide)
  rcases Decimal.split_at_first (colon time) (colon other) tails with ⟨times, devices⟩
  exact ⟨Decimal.ofInt_injective times, devices⟩

theorem stripPrefix_append (front text : Text) : stripPrefix front (front ++ text) = some text := by
  unfold stripPrefix
  rw [if_pos (List.isPrefixOf_iff_prefix.mpr (List.prefix_append front text)), List.drop_left]

/-! ## What was sealed -/

section Library

variable {library : CryptoLibrary} {format : Format}

/-- The encryption of a backup. -/
structure Sealed (library : CryptoLibrary) (format : Format) (request : Request) (safe : Settings) (key : SecretKey)
    (ciphertext : Bytes) : Prop where
  passphrase : validatePassphrase request.passphrase = .ok ()
  sanitized : sanitizeSettings request.settings = .ok safe
  derived : settingsKey library request.passphrase request.draws.salt = .ok key
  sealed : library.encrypt key request.draws.nonce (utf8 (aad request.updatedAt request.deviceId))
    (format.writePayload ⟨1, safe⟩) = some ciphertext

/-- The cipher and the key derivation are ideal for the backups that were made: these are
opened, nothing else is under their authenticated data, and no other passphrase or salt
gives a key of theirs. -/
structure Ideal (library : CryptoLibrary) (format : Format) (made : Request -> Prop) : Prop where
  opens : forall {request safe key ciphertext}, made request -> Sealed library format request safe key ciphertext ->
    library.decrypt key request.draws.nonce (utf8 (aad request.updatedAt request.deviceId)) ciphertext =
      some (format.writePayload ⟨1, safe⟩)
  authentic : forall {key nonce updatedAt deviceId ciphertext plaintext},
    library.decrypt key nonce (utf8 (aad updatedAt deviceId)) ciphertext = some plaintext ->
      Exists fun request => Exists fun safe => made request ∧ Sealed library format request safe key ciphertext ∧
        request.draws.nonce = nonce ∧ aad request.updatedAt request.deviceId = aad updatedAt deviceId ∧
          plaintext = format.writePayload ⟨1, safe⟩
  keys : forall {request passphrase salt key}, made request ->
    settingsKey library request.passphrase request.draws.salt = .ok key ->
      settingsKey library passphrase salt = .ok key -> passphrase = request.passphrase ∧ salt = request.draws.salt

theorem sealSettings_ok_iff {request : Request} {envelope : EncryptedSettingsEnvelope} :
    sealSettings library format request = .ok envelope ↔ Exists fun safe => Exists fun key => Exists fun ciphertext =>
      Sealed library format request safe key ciphertext ∧ envelope = request.envelope ciphertext := by
  constructor
  · intro done
    rcases Results.bind_ok done with ⟨⟨⟩, passphrase, done⟩
    rcases Results.bind_ok done with ⟨safe, settings, done⟩
    rcases Results.bind_ok done with ⟨key, derived, done⟩
    cases encrypted : library.encrypt key request.draws.nonce (utf8 (aad request.updatedAt request.deviceId))
        (format.writePayload ⟨1, safe⟩) with
    | none =>
      rw [encrypted] at done
      cases done
    | some ciphertext =>
      rw [encrypted] at done
      cases done
      exact ⟨safe, key, ciphertext, ⟨passphrase, settings, derived, encrypted⟩, rfl⟩
  · rintro ⟨safe, key, ciphertext, sealing, rfl⟩
    unfold sealSettings
    rw [sealing.passphrase, sealing.sanitized]
    dsimp only [bind, Except.bind]
    rw [sealing.derived]
    dsimp only
    rw [sealing.sealed]

/-- A message is read back as the envelope that it was made from. -/
theorem parseEnvelope_message (lawful : format.Lawful) (envelope : EncryptedSettingsEnvelope)
    (version : envelope.version = 1) (device : byteLength envelope.deviceId = 32)
    (clock : -(2 ^ 63) ≤ envelope.updatedAt ∧ envelope.updatedAt < 2 ^ 63) :
    parseEnvelope format (messagePrefix ++ Base64Url.encode (format.writeEnvelope envelope)) = .ok envelope := by
  unfold parseEnvelope
  rw [stripPrefix_append]
  dsimp only
  rw [Base64Url.decode_encode]
  dsimp only
  rw [lawful.envelope envelope clock.1 clock.2]
  dsimp only
  rw [if_neg (by rw [version, device]; decide)]

theorem decodeField_encode (bytes : Bytes) {length : Nat} (exactly : bytes.length = length)
    (malformed wrongLength : String) :
    decodeField (Base64Url.encode bytes) length malformed wrongLength = .ok bytes := by
  unfold decodeField
  rw [Base64Url.decode_encode]
  exact if_pos exactly

theorem decodeField_ok {text : Text} {length : Nat} {malformed wrongLength : String} {bytes : Bytes}
    (read : decodeField text length malformed wrongLength = .ok bytes) : text = Base64Url.encode bytes := by
  unfold decodeField at read
  cases decoded : Base64Url.decode true text with
  | none =>
    rw [decoded] at read
    cases read
  | some other =>
    rw [decoded] at read
    dsimp only at read
    split at read
    · cases read
      exact (Base64Url.encode_decode decoded).symm
    · cases read

/-! ## Opening what was sealed -/

theorem decryptSettings_encryptSettings {made : Request -> Prop} (lawful : format.Lawful)
    (ideal : Ideal library format made) {request : Request} {message : Text} (asked : made request)
    (device : byteLength request.deviceId = 32) (clock : -(2 ^ 63) ≤ request.updatedAt ∧ request.updatedAt < 2 ^ 63)
    (encrypted : encryptSettings library format request = .ok message) :
    Exists fun safe => sanitizeSettings request.settings = .ok safe ∧
      decryptSettings library format message request.passphrase = .ok ⟨safe, request.updatedAt, request.deviceId⟩ := by
  rcases Results.bind_ok encrypted with ⟨envelope, sealed, short⟩
  rcases sealSettings_ok_iff.mp sealed with ⟨safe, key, ciphertext, sealing, rfl⟩
  dsimp only at short
  split at short
  · cases short
  · cases short
    rcases sanitizeSettings_ok_iff.mp sealing.sanitized with ⟨entries, -, whole, checked⟩
    have parsed := parseEnvelope_message lawful (request.envelope ciphertext) rfl device clock
    have salt := decodeField_encode request.draws.salt request.draws.salt_length
      "Encrypted settings salt is malformed" "Encrypted settings salt has the wrong length"
    have nonce := decodeField_encode request.draws.nonce request.draws.nonce_length
      "Encrypted settings nonce is malformed" "Encrypted settings nonce has the wrong length"
    have payload := lawful.payload 1 entries checked
    have again := sanitizeSettings_again sealing.sanitized
    refine ⟨safe, sealing.sanitized, ?_⟩
    unfold decryptSettings
    rw [sealing.passphrase, parsed]
    dsimp only [bind, Except.bind, Request.envelope]
    rw [salt]
    dsimp only
    rw [nonce]
    dsimp only
    rw [Base64Url.decode_encode]
    dsimp only
    rw [sealing.derived]
    dsimp only
    rw [ideal.opens asked sealing]
    dsimp only
    rw [whole, payload]
    dsimp only
    rw [if_neg (by decide), ← whole, again]

/-! ## Opening any message -/

theorem parseEnvelope_version {message : Text} {envelope : EncryptedSettingsEnvelope}
    (parsed : parseEnvelope format message = .ok envelope) : envelope.version = 1 := by
  unfold parseEnvelope at parsed
  split at parsed
  · cases parsed
  · split at parsed
    · cases parsed
    · split at parsed
      · cases parsed
      · split at parsed
        · cases parsed
        next accepted =>
          cases parsed
          exact not_not.mp (not_or.mp accepted).1

/-- What opens is a backup that was made under the passphrase, with all its fields, and
gives the settings of that backup. -/
structure Restores (library : CryptoLibrary) (format : Format) (made : Request -> Prop) (message passphrase : Text)
    (download : SettingsSyncDownload) : Prop where
  backup : Exists fun request => Exists fun envelope => made request ∧ request.passphrase = passphrase ∧
    sealSettings library format request = .ok envelope ∧ parseEnvelope format message = .ok envelope ∧
      sanitizeSettings request.settings = .ok download.settings ∧
        download.updatedAt = request.updatedAt ∧ download.deviceId = request.deviceId
  allowed : Exists fun entries => download.settings = .object entries ∧
    forall key value, (key, value) ∈ entries -> Allowed key value

theorem decryptSettings_restores {made : Request -> Prop} (lawful : format.Lawful) (ideal : Ideal library format made)
    {message passphrase : Text} {download : SettingsSyncDownload}
    (opened : decryptSettings library format message passphrase = .ok download) :
    Restores library format made message passphrase download := by
  rcases Results.bind_ok opened with ⟨⟨⟩, -, opened⟩
  rcases Results.bind_ok opened with ⟨envelope, parsed, opened⟩
  rcases Results.bind_ok opened with ⟨salt, readSalt, opened⟩
  rcases Results.bind_ok opened with ⟨nonce, readNonce, opened⟩
  cases decoded : Base64Url.decode true envelope.ciphertext with
  | none =>
    rw [decoded] at opened
    cases opened
  | some ciphertext =>
    rw [decoded] at opened
    rcases Results.bind_ok opened with ⟨key, derived, opened⟩
    cases decrypted : library.decrypt key nonce (utf8 (aad envelope.updatedAt envelope.deviceId)) ciphertext with
    | none =>
      rw [decrypted] at opened
      cases opened
    | some plaintext =>
      rw [decrypted] at opened
      rcases ideal.authentic decrypted with ⟨request, safe, asked, sealing, sameNonce, authenticated, rfl⟩
      rcases aad_injective authenticated with ⟨time, device⟩
      rcases ideal.keys asked sealing.derived derived with ⟨passphrase, sameSalt⟩
      rcases sanitizeSettings_ok_iff.mp sealing.sanitized with ⟨entries, -, whole, checked⟩
      have same : envelope = request.envelope ciphertext := by
        have salted := decodeField_ok readSalt
        have nonced := decodeField_ok readNonce
        have version := parseEnvelope_version parsed
        have sealed := Base64Url.encode_decode decoded
        rw [sameSalt] at salted
        rw [← sameNonce] at nonced
        cases envelope
        simp only [Request.envelope, EncryptedSettingsEnvelope.mk.injEq]
        exact ⟨version, time.symm, device.symm, salted, nonced, sealed.symm⟩
      dsimp only at opened
      rw [whole, lawful.payload 1 entries checked] at opened
      dsimp only at opened
      rw [if_neg (by decide), ← whole, sanitizeSettings_again sealing.sanitized] at opened
      cases opened
      refine ⟨⟨request, envelope, asked, passphrase.symm, ?_, parsed, sealing.sanitized, time.symm, device.symm⟩, ?_⟩
      · exact sealSettings_ok_iff.mpr ⟨safe, key, ciphertext, sealing, same⟩
      · exact ⟨entries, whole, fun key value member => allowed_of_checkSetting (checked.checked key value member)⟩

end Library

/-! ## The name of a device -/

theorem byteLength_of_ascii {text : Text} (ascii : forall character, character ∈ text -> character.utf8Size = 1) :
    byteLength text = text.length := by
  unfold byteLength
  rw [List.map_congr_left ascii, List.map_const', List.sum_replicate_nat, Nat.mul_one]

theorem hexDigit_sizes {character : Char} (digit : isHexDigit character = true) :
    character.utf8Size = 1 ∧ character.toLower.utf8Size = 1 := by
  have every : forall code : Fin 128, (Char.ofNat code.val).utf8Size = 1 ∧ (Char.ofNat code.val).toLower.utf8Size = 1 := by
    decide
  have small : character.toNat < 128 := by
    unfold isHexDigit Char.isDigit at digit
    simp only [Bool.or_eq_true, Bool.and_eq_true, decide_eq_true_eq, Char.le_def, UInt32.le_iff_toNat_le] at digit
    change character.val.toNat < 128
    rcases digit with (decimal | small) | capital
    · exact Nat.lt_of_le_of_lt decimal.2 (by decide)
    · exact Nat.lt_of_le_of_lt small.2 (by decide)
    · exact Nat.lt_of_le_of_lt capital.2 (by decide)
  have here := every ⟨character.toNat, small⟩
  simp only [Char.ofNat_toNat] at here
  exact here

theorem deviceId_length (file : Option Text) (random : Vector UInt8 16) : byteLength (deviceId file random) = 32 := by
  have fresh : byteLength (random.toList.flatMap fun byte =>
      [hexDigit (byte.toNat / 16), hexDigit (byte.toNat % 16)]) = 32 := by
    have digits : forall number : Fin 16, (hexDigit number.val).utf8Size = 1 := by decide
    rw [byteLength_of_ascii]
    · rw [List.length_flatMap]
      simp
    · intro character member
      rcases List.mem_flatMap.mp member with ⟨byte, -, either⟩
      have bound := byte.toNat_lt
      simp only [List.mem_cons, List.not_mem_nil, or_false] at either
      rcases either with rfl | rfl
      · exact digits ⟨byte.toNat / 16, by omega⟩
      · exact digits ⟨byte.toNat % 16, by omega⟩
  unfold deviceId
  dsimp only
  cases file with
  | none => exact fresh
  | some text =>
    dsimp only
    split
    next known =>
      have digits := List.all_eq_true.mp known.2
      rw [byteLength_of_ascii fun character member => (hexDigit_sizes (digits character member)).1] at known
      rw [byteLength_of_ascii, List.length_map, known.1]
      intro character member
      rcases List.mem_map.mp member with ⟨original, within, rfl⟩
      exact (hexDigit_sizes (digits original within)).2
    · exact fresh

end SettingsSync
end TelegramDrive
