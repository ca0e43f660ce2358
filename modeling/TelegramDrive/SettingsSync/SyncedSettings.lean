import TelegramDrive.Library.Results

namespace TelegramDrive
namespace SettingsSync

/-!
# Settings that may be synced

A backup holds an object of settings from an explicit list, each with the values that it
may have.  The same check is made before a backup is sealed and after it is opened.
-/

/-- A value of JSON: a flag, a number that fits an `i64`, a text, or anything else. -/
inductive Value
  | boolean (flag : Bool)
  | integer (number : Int)
  | text (characters : String)
  | other
deriving DecidableEq

/-- The settings that a command is given: an object, in the order of its map, or not. -/
inductive Settings
  | object (entries : List (String × Value))
  | other
deriving DecidableEq

def booleanKeys : List String :=
  ["autoUpdate", "zipFolders", "videoFilenameCaption", "sidebarCollapsed", "hideGroups", "vpnMode",
    "adaptivePolling", "floodWaitRespect", "autoDetectVpn", "performanceMode", "linuxRenderingFix",
    "encryptionProtectMetadata", "encryptionLockOnSleep"]

structure NumberRange where
  key : String
  minimum : Int
  maximum : Int

def numberRanges : List NumberRange :=
  [⟨"maxConcurrentUploads", 1, 32⟩, ⟨"maxConcurrentDownloads", 1, 32⟩, ⟨"timeoutMultiplier", 1, 20⟩,
    ⟨"retryAttempts", 0, 20⟩, ⟨"retryBaseBackoffSec", 0, 300⟩, ⟨"retryMaxBackoffSec", 1, 3600⟩,
    ⟨"pollingMinSec", 1, 3600⟩, ⟨"pollingMaxSec", 1, 86400⟩, ⟨"dcFallbackAttempts", 0, 10⟩,
    ⟨"peerCacheSize", 1, 100000⟩, ⟨"bandwidthLimitUpKBs", 0, 10000000⟩,
    ⟨"bandwidthLimitDownKBs", 0, 10000000⟩, ⟨"chunkSizeKb", 4, 512⟩, ⟨"keepAliveIntervalSec", 0, 3600⟩,
    ⟨"archiveMaxBytes", 0, 4294967296⟩, ⟨"transcodeCacheMaxGb", 1, 50⟩, ⟨"encryptionAutoLockMinutes", 0, 1440⟩]

structure StringValues where
  key : String
  accepted : List String

def stringValues : List StringValues :=
  [⟨"viewMode", ["grid", "list"]⟩, ⟨"fileSortField", ["name", "size", "date"]⟩,
    ⟨"fileSortDirection", ["asc", "desc"]⟩, ⟨"videoUploadMode", ["file", "media"]⟩,
    ⟨"language", ["system", "en", "es", "ru", "uk-UA", "pl-PL", "fa-IR", "ur-PK", "ms-MY", "zh-CN", "zh-TW",
      "fr", "it", "ar", "pt-BR", "de", "hi", "bn-BD", "id", "fil-PH", "tr", "th-TH", "ja", "ko", "vi"]⟩,
    ⟨"preferredDC", ["auto", "dc1", "dc2", "dc3", "dc4", "dc5"]⟩,
    ⟨"encryptionDefaultMode", ["standard", "vault", "passphrase", "vault_and_passphrase"]⟩,
    ⟨"encryptionTempPolicy", ["balanced", "strict"]⟩]

/-- The check of one setting. -/
def checkSetting (key : String) (value : Value) : Except String Unit :=
  if key ∈ booleanKeys then
    match value with
    | .boolean _ => .ok ()
    | _ => .error ("Invalid value for synced setting " ++ key)
  else
    match numberRanges.find? fun range => range.key == key with
    | some range =>
      match value with
      | .integer number =>
        if number < range.minimum ∨ range.maximum < number then
          .error ("Synced setting " ++ key ++ " is outside its supported range")
        else .ok ()
      | _ => .error ("Invalid value for synced setting " ++ key)
    | none =>
      match stringValues.find? fun values => values.key == key with
      | some values =>
        match value with
        | .text characters =>
          if characters ∉ values.accepted then .error ("Unsupported value for synced setting " ++ key)
          else .ok ()
        | _ => .error ("Invalid value for synced setting " ++ key)
      | none => .error ("Setting " ++ key ++ " is not eligible for sync")

/-- The loop of `sanitize_settings`: the settings that are safe so far, and those to come. -/
def collectSafe (safe : List (String × Value)) : List (String × Value) -> Except String (List (String × Value))
  | [] => .ok safe
  | (key, value) :: rest => do
      checkSetting key value
      collectSafe (safe ++ [(key, value)]) rest

def sanitizeSettings : Settings -> Except String Settings
  | .other => .error "Settings sync payload must be an object"
  | .object entries => do
      let safe <- collectSafe [] entries
      if safe = [] then .error "No syncable settings were provided" else .ok (.object safe)

/-! ## What passes -/

/-- What a setting may be. -/
inductive Allowed : String -> Value -> Prop
  | boolean {key : String} (flag : Bool) (known : key ∈ booleanKeys) : Allowed key (.boolean flag)
  | number {range : NumberRange} {number : Int} (known : range ∈ numberRanges) (least : range.minimum ≤ number)
      (most : number ≤ range.maximum) : Allowed range.key (.integer number)
  | text {values : StringValues} {characters : String} (known : values ∈ stringValues)
      (accepted : characters ∈ values.accepted) : Allowed values.key (.text characters)

/-- Settings that may stand in a backup. -/
structure Safe (entries : List (String × Value)) : Prop where
  filled : entries ≠ []
  checked : forall key value, (key, value) ∈ entries -> checkSetting key value = .ok ()

theorem allowed_of_checkSetting {key : String} {value : Value} (passed : checkSetting key value = .ok ()) :
    Allowed key value := by
  unfold checkSetting at passed
  split at passed
  next known =>
    cases value with
    | boolean flag => exact .boolean flag known
    | _ => cases passed
  · split at passed
    next range found =>
      have same : range.key = key := eq_of_beq (List.find?_some found :)
      cases value with
      | integer number =>
        dsimp only at passed
        split at passed
        · cases passed
        next inside =>
          rw [not_or, Int.not_lt, Int.not_lt] at inside
          exact same ▸ .number (List.mem_of_find?_eq_some found) inside.1 inside.2
      | _ => cases passed
    · split at passed
      next values found =>
        have same : values.key = key := eq_of_beq (List.find?_some found :)
        cases value with
        | text characters =>
          dsimp only at passed
          split at passed
          · cases passed
          next accepted => exact same ▸ .text (List.mem_of_find?_eq_some found) (not_not.mp accepted)
        | _ => cases passed
      · cases passed

theorem collectSafe_ok {safe rest result : List (String × Value)} (collected : collectSafe safe rest = .ok result) :
    result = safe ++ rest ∧ forall key value, (key, value) ∈ rest -> checkSetting key value = .ok () := by
  induction rest generalizing safe with
  | nil =>
    cases collected
    exact ⟨(List.append_nil _).symm, fun _ _ member => absurd member List.not_mem_nil⟩
  | cons entry rest ih =>
    rcases entry with ⟨key, value⟩
    rcases Results.bind_ok collected with ⟨⟨⟩, passed, later⟩
    rcases ih later with ⟨whole, checked⟩
    refine ⟨by rw [whole, List.append_assoc, List.singleton_append], fun other item member => ?_⟩
    rcases List.mem_cons.mp member with same | within
    · cases same
      exact passed
    · exact checked other item within

theorem collectSafe_of_checked {rest : List (String × Value)}
    (checked : forall key value, (key, value) ∈ rest -> checkSetting key value = .ok ())
    (safe : List (String × Value)) : collectSafe safe rest = .ok (safe ++ rest) := by
  induction rest generalizing safe with
  | nil => rw [collectSafe, List.append_nil]
  | cons entry rest ih =>
    rcases entry with ⟨key, value⟩
    have passed := checked key value List.mem_cons_self
    have later := ih fun other item member => checked other item (List.mem_cons_of_mem _ member)
    unfold collectSafe
    rw [passed]
    show collectSafe (safe ++ [(key, value)]) rest = _
    rw [later, List.append_assoc, List.singleton_append]

/-- What is sanitized is an object of checked settings, and nothing is changed in it. -/
theorem sanitizeSettings_ok_iff {settings safe : Settings} : sanitizeSettings settings = .ok safe ↔
    Exists fun entries => settings = .object entries ∧ safe = .object entries ∧ Safe entries := by
  constructor
  · intro sanitized
    cases settings with
    | other => cases sanitized
    | object entries =>
      rcases Results.bind_ok sanitized with ⟨result, collected, kept⟩
      rcases collectSafe_ok collected with ⟨same, checked⟩
      rw [List.nil_append] at same
      split at kept
      · cases kept
      next filled =>
        cases kept
        exact ⟨entries, rfl, by rw [same], same ▸ filled, checked⟩
  · rintro ⟨entries, rfl, rfl, safe⟩
    unfold sanitizeSettings
    dsimp only
    rw [collectSafe_of_checked safe.checked []]
    show (if [] ++ entries = [] then _ else _) = _
    rw [List.nil_append, if_neg safe.filled]

theorem sanitizeSettings_again {settings safe : Settings} (sanitized : sanitizeSettings settings = .ok safe) :
    sanitizeSettings safe = .ok safe := by
  rcases sanitizeSettings_ok_iff.mp sanitized with ⟨entries, -, same, checked⟩
  exact sanitizeSettings_ok_iff.mpr ⟨entries, same, same, checked⟩

end SettingsSync
end TelegramDrive
