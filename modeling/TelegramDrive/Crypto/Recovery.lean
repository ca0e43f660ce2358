import TelegramDrive.Crypto.Mutations

namespace TelegramDrive
namespace Crypto

/-!
# Recovery bundles keep the keys

A bundle that must not replace keys is compared with the unlocked vault first: it has to
have the same vault key and every profile with the same key, and may have more profiles.
A vault that was exported is restored whole by its bundle, into whatever vault the bundle
is imported, since the payload of a bundle is read back as it was written.
-/

/-! ## The comparison with an unlocked vault -/

/-- The bundle has the vault's key and every profile of the vault under the same key. -/
structure Covers (bundle : Material) (vault : FileVault) : Prop where
  vaultKey : vault.vaultKey = some bundle.vaultKey
  profiles : forall (id : String) (key : SecretKey),
    vault.profiles[id]? = some key -> bundle.profiles[id]? = some key

variable {vault : FileVault} {bundle exported : Material}

theorem no_profile_missing (profiles other : Profiles) :
    (profiles.toList.countP fun profile => decide (other[profile.1]? ≠ some profile.2)) = 0 ↔
      forall (id : String) (key : SecretKey), profiles[id]? = some key -> other[id]? = some key := by
  rw [List.countP_eq_zero]
  constructor
  · intro none id key found
    have present := none (id, key) (mem_profiles.mpr found)
    rwa [decide_eq_true_eq, not_not] at present
  · rintro all ⟨id, key⟩ member
    rw [decide_eq_true_eq, not_not]
    exact all id key (mem_profiles.mp member)

theorem isComplete_iff {comparison : RecoveryVerification}
    (compared : compareWithUnlocked vault bundle = .ok comparison) :
    comparison.isComplete = true ↔ Covers bundle vault := by
  unfold compareWithUnlocked at compared
  split at compared
  · cases compared
  next vaultKey held =>
    cases compared
    unfold RecoveryVerification.isComplete
    rw [Bool.and_eq_true, decide_eq_true_eq, decide_eq_true_eq, no_profile_missing]
    constructor
    · rintro ⟨same, profiles⟩
      exact ⟨held.trans (congrArg some same), profiles⟩
    · intro covers
      exact ⟨Option.some.inj (held.symm.trans covers.vaultKey), covers.profiles⟩

/-- An import goes on when it may replace keys, when the vault is locked, and otherwise for
bundles that have all of the vault's keys. -/
theorem importAllowed_ok (allowReplacement : Bool) :
    importAllowed vault bundle allowReplacement = .ok () ↔
      allowReplacement = true ∨ vault.unlocked = false ∨ Covers bundle vault := by
  unfold importAllowed
  cases allowReplacement with
  | true => simp
  | false =>
    cases vault.unlocked with
    | false => simp
    | true =>
      simp only [Bool.not_false, Bool.and_true, if_true, Bool.false_eq_true, Bool.true_eq_false, false_or]
      cases compared : compareWithUnlocked vault bundle with
      | error error =>
        constructor
        · intro impossible
          cases impossible
        · intro covers
          unfold compareWithUnlocked at compared
          rw [covers.vaultKey] at compared
          cases compared
      | ok comparison =>
        have complete := isComplete_iff compared
        show (if comparison.isComplete = true then _ else _) = _ ↔ _
        by_cases all : comparison.isComplete = true
        · rw [if_pos all]
          exact iff_of_true rfl (complete.mp all)
        · rw [if_neg all]
          exact iff_of_false (fun impossible => by cases impossible) (fun covers => all (complete.mpr covers))

theorem Covers.of_same (covers : Covers exported vault) (same : bundle.Same exported) : Covers bundle vault := by
  constructor
  · rw [same.vaultKey]
    exact covers.vaultKey
  · intro id key found
    rw [same.profiles.getElem?_eq]
    exact covers.profiles id key found

/-! ## What an import leaves -/

/-- The material that a vault holds. -/
structure FileVault.Holds (vault : FileVault) (material : Material) : Prop where
  createdAt : vault.createdAt = material.createdAt
  vaultKey : vault.vaultKey = some material.vaultKey
  profiles : vault.profiles.Equiv material.profiles

theorem material_of_holds {material : Material} (held : vault.material = .ok material) :
    vault.Holds material := by
  unfold FileVault.material at held
  split at held
  · cases held
  next vaultKey present =>
    cases held
    exact ⟨rfl, present, .rfl⟩

theorem opened_holds {opened : OpenedVault} (same : opened.material.Same exported) :
    (FileVault.opened opened).Holds exported :=
  ⟨same.createdAt, congrArg some same.vaultKey, same.profiles⟩

theorem loadWrappingKey_ok {id : String} {key : SecretKey} :
    vault.loadWrappingKey id = .ok key ↔ vault.unlocked = true ∧ vault.profiles[id]? = some key := by
  unfold FileVault.loadWrappingKey
  cases vault.unlocked with
  | false => simp
  | true =>
    cases vault.profiles[id]? with
    | none | some found => simp

section Imports

variable {primitives : VaultPrimitives} {stored after : StoredVault} {around : Surroundings}
  {bytes recovery : Bytes} {vaultPassphrase : Option Bytes} {allowReplacement : Bool}

theorem importedMaterial_ok {opened : OpenedVault}
    (done : importedMaterial primitives vault around.draws bytes recovery vaultPassphrase allowReplacement =
      .ok opened) :
    primitives.openBundle bytes recovery = .ok opened.material ∧
      importAllowed vault opened.material allowReplacement = .ok () := by
  unfold importedMaterial at done
  rcases bind_eq_ok done with ⟨material, parsed, rest⟩
  rcases bind_eq_ok rest with ⟨allowed, compared, others⟩
  rcases bind_eq_ok others with ⟨⟨unlockKey, salt⟩, -, last⟩
  cases last
  exact ⟨parsed, compared⟩

theorem storeBundle_ok
    (done : storeBundle primitives stored around bytes recovery vaultPassphrase allowReplacement = (.ok (), after)) :
    Exists fun opened : OpenedVault => primitives.openBundle bytes recovery = .ok opened.material ∧
      importAllowed stored.vault opened.material allowReplacement = .ok () ∧
      after.vault = FileVault.opened opened := by
  unfold storeBundle at done
  split at done
  · cases done
  next opened imported =>
    rcases importedMaterial_ok imported with ⟨parsed, allowed⟩
    refine ⟨opened, parsed, allowed, ?_⟩
    dsimp only at done
    split at done
    · cases done
    · unfold replaceMaterial at done
      dsimp only at done
      split at done
      · cases done
      · cases done
        rfl

theorem storeBundle_succeeds {unlockKey : SecretKey} {salt : Bytes}
    (parsed : primitives.openBundle bytes recovery = .ok bundle)
    (allowed : importAllowed stored.vault bundle allowReplacement = .ok ())
    (protects : importProtection primitives stored.vault around.draws vaultPassphrase = .ok (unlockKey, salt))
    (archived : around.archiving = .ok ()) (writable : stored.storage.Writable around.faults)
    (serializable : Serializable bundle.profiles)
    (encrypts : Exists fun file => primitives.encryptPayloadWithKey (payloadOf bundle) unlockKey salt
      around.draws.nonce = .ok file) :
    (storeBundle primitives stored around bytes recovery vaultPassphrase allowReplacement).1 = .ok () := by
  have imported : importedMaterial primitives stored.vault around.draws bytes recovery vaultPassphrase
      allowReplacement = .ok ⟨bundle, unlockKey, salt⟩ := by
    unfold importedMaterial
    rw [parsed]
    show (importAllowed _ _ _ >>= _) = _
    rw [allowed]
    show (importProtection _ _ _ _ >>= _) = _
    rw [protects]
    rfl
  have archiving : (stored.storage.archiveBeforeReplacement around.archiving).1 = .ok () ∧
      (stored.storage.archiveBeforeReplacement around.archiving).2.Writable around.faults := by
    cases kept : stored.storage with
    | files before =>
      rw [kept] at writable
      refine ⟨?_, writable⟩
      unfold Storage.archiveBeforeReplacement
      dsimp only
      rw [archived]
      exact ite_self _
    | preparation captured pending archive => exact ⟨rfl, trivial⟩
  rcases encrypts with ⟨file, encrypted⟩
  have storable : (persist primitives (FileVault.opened ⟨bundle, unlockKey, salt⟩)
      (stored.storage.archiveBeforeReplacement around.archiving).2 around).1 = .ok () :=
    (persist_ok primitives).mpr ⟨serializable, ⟨_, _, _, file, rfl, rfl, rfl, encrypted⟩, archiving.2⟩
  unfold storeBundle
  rw [imported]
  dsimp only
  rw [archiving.1]
  unfold replaceMaterial
  dsimp only
  rw [storable]

end Imports
/-! ## Exporting -/

theorem flatten_length_le {listed : List (String × SecretKey)}
    (valid : forall profile, profile ∈ listed -> ValidProfileId profile.1) :
    (listed.map profileBytes).flatten.length ≤ 162 * listed.length := by
  induction listed with
  | nil => exact Nat.le_refl 0
  | cons profile listed ih =>
    have short := (valid profile List.mem_cons_self).2
    have rest := ih fun other member => valid other (List.mem_cons_of_mem _ member)
    rw [List.map_cons, List.flatten_cons, List.length_append, List.length_cons]
    have size : (profileBytes profile).length = 2 + (idBytes profile.1).length + 32 := by
      unfold profileBytes
      rw [List.length_append, List.length_append, toLeBytes_length, profile.2.length_eq]
    omega

theorem payloadOf_length {material : Material} (serializable : Serializable material.profiles) :
    48 ≤ (payloadOf material).length ∧ (payloadOf material).length ≤ 48 + 162 * 64 := by
  have listed : (material.profiles.toList.map profileBytes).flatten.length ≤ 162 * material.profiles.toList.length := by
    apply flatten_length_le
    rintro ⟨id, key⟩ member
    apply serializable.valid
    rw [Std.TreeMap.mem_iff_isSome_getElem?, mem_profiles.mp member]
    rfl
  have few := serializable.few
  rw [Std.TreeMap.length_toList] at listed
  have magic : payloadMagic.length = 6 := rfl
  unfold payloadOf
  rw [List.length_append, List.length_append, List.length_append, List.length_append, toLeBytes_length,
    toLeBytes_length, material.vaultKey.length_eq, magic]
  omega

/-- The encoder's limits are within those of a bundle. -/
theorem payloadOf_small {material : Material} (serializable : Serializable material.profiles) :
    payloadOf material ≠ [] ∧ (payloadOf material).length ≤ maxRecoveryPayload := by
  rcases payloadOf_length serializable with ⟨long, short⟩
  constructor
  · intro empty
    rw [empty, List.length_nil] at long
    omega
  · unfold maxRecoveryPayload
    omega

theorem Serializable.of_equiv {one two : Profiles} (serializable : Serializable two) (equiv : one.Equiv two) :
    Serializable one := by
  constructor
  · rw [equiv.size_eq]
    exact serializable.few
  · intro id member
    exact serializable.valid id (equiv.mem_iff.mp member)

theorem payloadOf_same {one two : Material} (same : one.Same two) : payloadOf one = payloadOf two := by
  unfold payloadOf
  rw [same.createdAt, same.vaultKey, same.profiles.size_eq, Std.TreeMap.equiv_iff_toList_eq.mp same.profiles]

section Exports

variable {library : CryptoLibrary} {draws : SealDraws} {sha256 : Bytes -> Bytes} {passphrase bytes : Bytes}

/-- A vault with few enough profiles, all with names, can be exported. -/
theorem exportBundle_succeeds (correct : library.Correct) (unlocked : vault.unlocked = true)
    (held : vault.material = .ok exported) (serializable : Serializable exported.profiles)
    (long : 8 ≤ passphrase.length)
    (encrypts : Exists fun key => deriveWithFloors library passphrase draws.salt = .ok key ∧
      forall nonce aad message, (library.encrypt key nonce aad message).isSome = true) :
    Exists fun bytes => exportBundle (sealedPrimitives library draws sha256) vault passphrase = .ok bytes := by
  rcases encrypts with ⟨key, derived, encrypts⟩
  rcases payloadOf_small serializable with ⟨present, small⟩
  have allowed : ¬ (payloadOf exported = [] ∨ maxRecoveryPayload < (payloadOf exported).length) := by
    rintro (empty | large)
    · exact present empty
    · exact absurd small (Nat.not_le_of_lt large)
  rcases Option.isSome_iff_exists.mp (encrypts draws.nonce (authenticated recoveryFormat
    (encodeHeader recoveryFormat (sealHeader (payloadOf exported) draws.salt draws.nonce))) (payloadOf exported))
    with ⟨ciphertext, encrypted⟩
  refine ⟨encodeHeader recoveryFormat (sealHeader (payloadOf exported) draws.salt draws.nonce) ++ ciphertext, ?_⟩
  unfold exportBundle
  rw [if_neg (by rw [unlocked]; decide), held]
  show (serializePayload exported >>= _) = _
  rw [serializePayload_of exported serializable]
  show createRecoveryBundle library draws (payloadOf exported) passphrase = _
  unfold createRecoveryBundle
  rw [if_neg allowed, if_neg (Nat.not_lt_of_le long), derived]
  show sealPayload library recoveryFormat (payloadOf exported) key draws.salt draws.nonce = _
  unfold sealPayload
  dsimp only
  rw [encrypted]
  dsimp only
  rw [if_neg (not_not_intro (correct.tagged _ _ _ _ _ encrypted))]

theorem exported_opens (correct : library.Correct) (fits : IsI64 vault.createdAt)
    (done : exportBundle (sealedPrimitives library draws sha256) vault passphrase = .ok bytes) :
    Exists fun exported => Exists fun parsed => vault.material = .ok exported ∧
      (sealedPrimitives library draws sha256).openBundle bytes passphrase = .ok parsed ∧ parsed.Same exported ∧
      Serializable exported.profiles := by
  unfold exportBundle at done
  split at done
  · cases done
  · rcases bind_eq_ok done with ⟨exported, held, rest⟩
    rcases bind_eq_ok rest with ⟨payload, serialized, created⟩
    have dated : IsI64 exported.createdAt := by
      rw [← (material_of_holds held).createdAt]
      exact fits
    rcases parsePayload_serialized dated serialized with ⟨parsed, read, same⟩
    refine ⟨exported, parsed, held, ?_, same, serializable_of serialized⟩
    show (importRecoveryBundle library bytes passphrase >>= parsePayload) = .ok parsed
    rw [importRecoveryBundle_created correct created]
    exact read

end Exports

/-! ## The keys are kept -/

/-- What happens to the keys when bundles are exported and imported. -/
structure KeepsKeys (primitives : VaultPrimitives) : Prop where
  /-- An import that must not replace keys takes bundles only that have all of them, and
  every profile that could be loaded loads the same key afterwards. -/
  imports : forall stored after around bytes recovery vaultPassphrase, stored.vault.unlocked = true ->
    storeBundle primitives stored around bytes recovery vaultPassphrase false = (.ok (), after) ->
    (Exists fun bundle => primitives.openBundle bytes recovery = .ok bundle ∧ Covers bundle stored.vault) ∧
      forall id key, stored.vault.loadWrappingKey id = .ok key -> after.vault.loadWrappingKey id = .ok key
  /-- What is exported is restored by an import of the bundle under its passphrase. -/
  restores : forall vault exported passphrase bytes, IsI64 vault.createdAt -> vault.material = .ok exported ->
    exportBundle primitives vault passphrase = .ok bytes ->
    forall stored after around vaultPassphrase allowReplacement,
      storeBundle primitives stored around bytes passphrase vaultPassphrase allowReplacement = (.ok (), after) ->
      after.vault.unlocked = true ∧ after.vault.Holds exported
  /-- Such an import goes through, unless it would drop keys or its surroundings fail. -/
  importable : forall vault exported passphrase bytes, IsI64 vault.createdAt -> vault.material = .ok exported ->
    exportBundle primitives vault passphrase = .ok bytes ->
    forall (stored : StoredVault) (around : Surroundings) vaultPassphrase allowReplacement unlockKey salt file,
      allowReplacement = true ∨ stored.vault.unlocked = false ∨ Covers exported stored.vault ->
      importProtection primitives stored.vault around.draws vaultPassphrase = .ok (unlockKey, salt) ->
      around.archiving = .ok () -> stored.storage.Writable around.faults ->
      primitives.encryptPayloadWithKey (payloadOf exported) unlockKey salt around.draws.nonce = .ok file ->
      (storeBundle primitives stored around bytes passphrase vaultPassphrase allowReplacement).1 = .ok ()

/-- Every vault of at most 64 profiles with valid names can be exported. -/
def Exports (library : CryptoLibrary) (draws : SealDraws) (sha256 : Bytes -> Bytes) : Prop :=
  forall (vault : FileVault) exported passphrase key, vault.unlocked = true -> vault.material = .ok exported ->
    Serializable exported.profiles -> 8 ≤ passphrase.length ->
    deriveWithFloors library passphrase draws.salt = .ok key ->
    (forall nonce aad message, (library.encrypt key nonce aad message).isSome = true) ->
    Exists fun bytes => exportBundle (sealedPrimitives library draws sha256) vault passphrase = .ok bytes

/-- Parsing undoes serializing, and the payload does not depend on how the map is kept. -/
def Undoes : Prop :=
  forall material, IsI64 material.createdAt -> Serializable material.profiles ->
    Exists fun payload => serializePayload material = .ok payload ∧
      (Exists fun parsed => parsePayload payload = .ok parsed ∧ parsed.Same material) ∧
      forall other : Material, other.Same material -> serializePayload other = .ok payload

theorem parse_undoes_serialize : Undoes := by
  intro material fits serializable
  have serialized := serializePayload_of material serializable
  refine ⟨payloadOf material, serialized, parsePayload_serialized fits serialized, ?_⟩
  intro other same
  rw [serializePayload_same same]
  exact serialized

theorem import_keeps_keys {primitives : VaultPrimitives} {stored after : StoredVault} {around : Surroundings}
    {bytes recovery : Bytes} {vaultPassphrase : Option Bytes} (unlocked : stored.vault.unlocked = true)
    (done : storeBundle primitives stored around bytes recovery vaultPassphrase false = (.ok (), after)) :
    (Exists fun bundle => primitives.openBundle bytes recovery = .ok bundle ∧ Covers bundle stored.vault) ∧
      forall id key, stored.vault.loadWrappingKey id = .ok key -> after.vault.loadWrappingKey id = .ok key := by
  rcases storeBundle_ok done with ⟨opened, parsed, allowed, left⟩
  have covers : Covers opened.material stored.vault := by
    rcases (importAllowed_ok false).mp allowed with replaces | locked | covers
    · cases replaces
    · rw [unlocked] at locked
      cases locked
    · exact covers
  refine ⟨⟨opened.material, parsed, covers⟩, ?_⟩
  intro id key loaded
  rw [left]
  exact loadWrappingKey_ok.mpr ⟨rfl, covers.profiles id key (loadWrappingKey_ok.mp loaded).2⟩

/-- With a cipher that opens what it sealed, an import that must not replace keys loses
none, and an exported vault is restored from its bundle with the same date, vault key and
profiles, wherever the bundle is imported. -/
theorem recovery_keeps_keys (library : CryptoLibrary) (correct : library.Correct) (draws : SealDraws)
    (sha256 : Bytes -> Bytes) :
    KeepsKeys (sealedPrimitives library draws sha256) ∧ Exports library draws sha256 ∧ Undoes := by
  refine ⟨?_, ?_, parse_undoes_serialize⟩
  · constructor
    · intro stored after around bytes recovery vaultPassphrase unlocked done
      exact import_keeps_keys unlocked done
    · intro vault exported passphrase bytes fits held done stored after around vaultPassphrase allowReplacement stores
      rcases exported_opens correct fits done with ⟨same, parsed, holds, opens, equal, -⟩
      rw [held, Except.ok.injEq] at holds
      rcases storeBundle_ok stores with ⟨opened, read, -, left⟩
      rw [opens, Except.ok.injEq] at read
      rw [left]
      refine ⟨rfl, opened_holds ?_⟩
      rw [← read, holds]
      exact equal
    · intro vault exported passphrase bytes fits held done stored around vaultPassphrase allowReplacement unlockKey
        salt file allowed protects archived writable encrypted
      rcases exported_opens correct fits done with ⟨same, parsed, holds, opens, equal, serializable⟩
      rw [held, Except.ok.injEq] at holds
      cases holds
      refine storeBundle_succeeds opens ?_ protects archived writable (serializable.of_equiv equal.profiles) ?_
      · rw [importAllowed_ok]
        exact allowed.imp_right (Or.imp_right fun covers => covers.of_same equal)
      · exact ⟨file, by rw [payloadOf_same equal]; exact encrypted⟩
  · intro vault exported passphrase key unlocked held serializable long derived encrypts
    exact exportBundle_succeeds correct unlocked held serializable long ⟨key, derived, encrypts⟩

/-- The library without secrecy keeps the keys. -/
theorem plain_recovery_keeps_keys :
    plainLibrary.Correct ∧ KeepsKeys (sealedPrimitives plainLibrary plainDraws id) ∧
      Exports plainLibrary plainDraws id ∧ Undoes :=
  ⟨plainLibrary_correct, recovery_keeps_keys plainLibrary plainLibrary_correct plainDraws id⟩

end Crypto
end TelegramDrive
