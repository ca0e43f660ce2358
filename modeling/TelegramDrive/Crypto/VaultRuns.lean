import TelegramDrive.Crypto.Recovery
import TelegramDrive.Library.Machine

namespace TelegramDrive
namespace Crypto

/-!
# The vault file over many calls

A vault is changed, locked and unlocked; calls fail, and the process stops in the middle
of a write.  From its creation on, the file that would be read opens, under the passphrase
that protects it, to the vault that was stored there last.

A vault writes its key with the parameters of the writer, whatever those of the file were
that it was opened from, so a file of another writer is not part of these runs.
-/

/-! ## Runs -/

/-- The passphrase that protects what a call stores. -/
def Mutation.protects (passphrase : Bytes) : Mutation -> Bytes
  | saveProfile _ _ => passphrase
  | changePassphrase fresh => fresh
  | importBundle _ _ fresh _ => fresh.getD passphrase

def Mutation.saves : Mutation -> Bool
  | saveProfile _ _ => true
  | _ => false

/-- The sizes of what a call draws. -/
def Draws.Typed (draws : Draws) : Prop := draws.salt.length = 16 ∧ draws.nonce.length = 24 ∧ IsI64 draws.now

instance (draws : Draws) : Decidable draws.Typed := inferInstanceAs (Decidable (_ ∧ _))

/-- The vault and its files.  The last fields are a history: what the file that is read was
stored as, under which passphrase, and whether a profile was not stored since. -/
structure VaultRun where
  vault : FileVault
  files : VaultFiles
  passphrase : Bytes
  kept : FileVault
  unsaved : Bool

inductive VaultAct
  | call (mutation : Mutation) (around : Surroundings)
  | unlock (passphrase : Bytes)
  | lock
  -- the process stops after some accesses of the write of a call, and starts again
  | stop (mutation : Mutation) (around : Surroundings) (accesses : Nat)

namespace VaultRun

variable (primitives : VaultPrimitives)

def created (prepared : Prepared) (passphrase : Bytes) : VaultRun :=
  ⟨prepared.vault, ⟨prepared.pending, none, none⟩, passphrase, prepared.vault, false⟩

def step (run : VaultRun) : VaultAct -> Option VaultRun
  | .call mutation around =>
    if around.draws.Typed then
      match mutation.run primitives ⟨run.vault, .files run.files⟩ around with
      | (.ok (), ⟨vault, .files files⟩) => some ⟨vault, files, mutation.protects run.passphrase, vault, false⟩
      | (.error _, ⟨vault, .files files⟩) =>
        some ⟨vault, files, run.passphrase, run.kept, run.unsaved || mutation.saves⟩
      | _ => none
    else none
  | .unlock passphrase =>
    match run.files.capturedBytes >>= fun file => primitives.openFile file passphrase with
    | .error _ => some run
    | .ok opened => some ⟨.opened opened, run.files, passphrase, .opened opened, false⟩
  | .lock => some ⟨run.vault.lock, run.files, run.passphrase, run.kept, false⟩
  | .stop mutation around accesses =>
    if around.draws.Typed then
      -- what the call writes is what can be read behind it when no access fails
      match mutation.run primitives ⟨run.vault, .files run.files⟩ { around with faults := ⟨fun _ => false, []⟩ } with
      | (.ok (), ⟨vault, .files written⟩) =>
        let files := Attempt.leaves ⟨written.readable.getD [], around.faults, some accesses⟩ run.files
        some (if files.readable = written.readable then ⟨.new, files, mutation.protects run.passphrase, vault, false⟩
          else ⟨.new, files, run.passphrase, run.kept, false⟩)
      | _ => some ⟨.new, run.files, run.passphrase, run.kept, false⟩
    else none

def machine : Machine VaultRun VaultAct := ⟨step primitives⟩

end VaultRun

/-! ## What the file holds -/

section Runs

variable {library : CryptoLibrary} {draws : SealDraws} {sha256 : Bytes -> Bytes} {vault kept : FileVault}
  {files : VaultFiles} {around : Surroundings} {passphrase bytes : Bytes}

/-- An unlocked vault, with the key that a passphrase gives. -/
structure Keyed (library : CryptoLibrary) (passphrase : Bytes) (vault : FileVault) : Prop where
  unlocked : vault.unlocked = true
  dated : IsI64 vault.createdAt
  key : Exists fun key => Exists fun salt => vault.unlockKey = some key ∧ vault.vaultSalt = some salt ∧
    salt.length = 16 ∧ deriveWithFloors library passphrase salt = .ok key

/-- The file that is read has the parameters of the writer, and opens to the vault that is kept. -/
structure Opens (library : CryptoLibrary) (readable : Option Bytes) (passphrase : Bytes) (kept : FileVault) : Prop where
  header : Exists fun file => Exists fun payload => Exists fun draws : SealDraws => readable = some file ∧
    parseHeader vaultFormat file = .ok (sealHeader payload draws.salt draws.nonce)
  opens : Exists fun file => Exists fun opened => captured readable = .ok file ∧
    openVaultFile library file passphrase = .ok opened ∧ (FileVault.opened opened).Alike kept

theorem parsePayload_dated {material : Material} (parsed : parsePayload bytes = .ok material) :
    IsI64 material.createdAt := by
  have bounds : forall value : Int, IsI64 (value.bmod (2 ^ 64)) := by
    intro value
    have lower := Int.le_bmod (x := value) (Nat.two_pow_pos 64)
    have upper := Int.bmod_lt (x := value) (Nat.two_pow_pos 64)
    unfold IsI64
    omega
  unfold parsePayload at parsed
  split at parsed
  · cases parsed
  · dsimp only at parsed
    split at parsed
    · cases parsed
    · split at parsed
      · cases parsed
      · rcases bind_eq_ok parsed with ⟨profiles, -, made⟩
        rw [← Except.ok.inj made]
        dsimp only
        exact bounds _

/-- What was stored opens again. -/
theorem persisted_opens (correct : library.Correct) (keyed : Keyed library passphrase vault) {nonce : Bytes}
    (length : nonce.length = 24)
    (persisted : persistUnlocked (sealedPrimitives library draws sha256) vault nonce = .ok bytes) :
    Opens library (some bytes) passphrase vault := by
  rcases keyed.key with ⟨key, salt, wraps, salted, sixteen, derived⟩
  unfold persistUnlocked at persisted
  rw [wraps, salted] at persisted
  rcases bind_eq_ok persisted with ⟨material, held, rest⟩
  rcases bind_eq_ok rest with ⟨payload, serialized, done⟩
  have holds := material_of_holds held
  have small : payload.length + aeadTagLength ≤ vaultFormat.maxCiphertext := by
    have serializable := serializable_of serialized
    have short := payloadOf_length serializable
    rw [serializePayload_of material serializable, Except.ok.injEq] at serialized
    rw [← serialized]
    exact Nat.le_trans (Nat.add_le_add_right short.2 _) (by decide)
  let drawn : SealDraws := ⟨salt, nonce, sixteen, length⟩
  have opened := openSealed_sealed correct drawn derived small done
  change sealPayload library vaultFormat payload key salt nonce = .ok bytes at done
  unfold sealPayload at done
  dsimp only at done
  split at done
  · cases done
  next ciphertext encrypted =>
    have tagged := correct.tagged _ _ _ _ _ encrypted
    rw [if_neg (not_not_intro tagged)] at done
    cases done
    have whole : captured (some (encodeHeader vaultFormat (sealHeader payload salt nonce) ++ ciphertext)) =
        .ok (encodeHeader vaultFormat (sealHeader payload salt nonce) ++ ciphertext) := by
      refine if_neg (Nat.not_lt.mpr ?_)
      rw [List.length_append, encodeHeader_length _ sixteen length, tagged]
      exact Nat.add_le_add_left small 64
    rcases parsePayload_serialized (by rw [← holds.createdAt]; exact keyed.dated) serialized with
      ⟨parsed, read, same⟩
    refine ⟨⟨_, payload, drawn, rfl, parseHeader_encoded drawn tagged small⟩, _, ⟨parsed, key, salt⟩, whole, ?_, ?_⟩
    · unfold openVaultFile
      rw [opened]
      show (parsePayload payload >>= _) = _
      rw [read]
      rfl
    · have alike : (FileVault.opened ⟨parsed, key, salt⟩).Holds material := opened_holds same
      exact ⟨keyed.unlocked.symm, alike.vaultKey.trans holds.vaultKey.symm, wraps.symm, salted.symm,
        alike.createdAt.trans holds.createdAt.symm, alike.profiles.trans holds.profiles.symm⟩

/-! ## What a call leaves -/

theorem persist_files (draws : SealDraws) (sha256 : Bytes -> Bytes) (correct : library.Correct)
    (keyed : Keyed library passphrase vault) (typed : around.draws.Typed) (files : VaultFiles) : Exists fun after =>
      persist (sealedPrimitives library draws sha256) vault (.files files) around = (.ok (), .files after) ∧
        Opens library after.readable passphrase vault ∨
      Exists fun error => persist (sealedPrimitives library draws sha256) vault (.files files) around =
        (.error error, .files after) ∧ after.readable = files.readable := by
  unfold persist
  cases persisted : persistUnlocked (sealedPrimitives library draws sha256) vault around.draws.nonce with
  | error error => exact ⟨files, Or.inr ⟨error, rfl, rfl⟩⟩
  | ok bytes =>
    have replaces := atomicWrite_replaces around.faults files bytes
    refine ⟨(files.atomicWrite around.faults bytes).final files, ?_⟩
    cases result : (files.atomicWrite around.faults bytes).result with
    | ok done =>
      refine Or.inl ⟨congrArg (·, _) result, ?_⟩
      rw [replaces.done result]
      exact persisted_opens correct keyed typed.2.1 persisted
    | error error => exact Or.inr ⟨error, congrArg (·, _) result, replaces.failed error result⟩

/-- The readable file stays, or opens to the vault in memory. -/
inductive Mutation.Leaves (library : CryptoLibrary) (vault : FileVault) (files : VaultFiles) (passphrase : Bytes)
    (mutation : Mutation) : CryptoResult Unit × StoredVault -> Prop
  | failed {error : CryptoError} {left : FileVault} {after : VaultFiles} (readable : after.readable = files.readable)
      (memory : left = vault ∨ mutation.saves = true ∧ Keyed library passphrase left) :
      Leaves library vault files passphrase mutation (.error error, ⟨left, .files after⟩)
  | stored {next : FileVault} {after : VaultFiles} (keyed : Keyed library (mutation.protects passphrase) next)
      (opens : Opens library after.readable (mutation.protects passphrase) next) :
      Leaves library vault files passphrase mutation (.ok (), ⟨next, .files after⟩)

theorem changePassphrase_persists {primitives : VaultPrimitives} {prepared : Prepared} (files : VaultFiles)
    (done : changePassphrase primitives vault around.draws passphrase = .ok prepared) :
    vault.unlocked = true ∧ (Exists fun unlockKey =>
      primitives.derivePassphraseKey passphrase around.draws.salt = .ok unlockKey ∧
      prepared.vault = { vault with unlockKey := some unlockKey, vaultSalt := some around.draws.salt }) ∧
      persist primitives prepared.vault (.files files) around =
        (Storage.files files).write around.faults (prepared.pending.getD []) := by
  unfold changePassphrase at done
  split at done
  · cases done
  next unlocked =>
    split at done
    · cases done
    · rcases bind_eq_ok done with ⟨unlockKey, derived, rest⟩
      rcases bind_eq_ok rest with ⟨material, held, more⟩
      rcases bind_eq_ok more with ⟨payload, serialized, last⟩
      rcases bind_eq_ok last with ⟨bytes, encrypted, made⟩
      cases made
      refine ⟨by simpa using unlocked, ⟨unlockKey, derived, rfl⟩, ?_⟩
      have persisted : persistUnlocked primitives { vault with
          unlockKey := some unlockKey
          vaultSalt := some around.draws.salt } around.draws.nonce = .ok bytes := by
        show (vault.material >>= fun material => serializePayload material >>= fun payload => _) = _
        rw [held]
        show (serializePayload material >>= _) = _
        rw [serialized]
        exact encrypted
      unfold persist
      rw [persisted]
      rfl

theorem importedMaterial_keyed {bundle recovery : Bytes} {fresh : Option Bytes} {allowReplacement : Bool}
    {opened : OpenedVault} (memory : vault.unlocked = true -> Keyed library passphrase vault)
    (typed : around.draws.Typed)
    (done : importedMaterial (sealedPrimitives library draws sha256) vault around.draws bundle recovery fresh
      allowReplacement = .ok opened) : Keyed library (fresh.getD passphrase) (FileVault.opened opened) := by
  unfold importedMaterial at done
  rcases bind_eq_ok done with ⟨material, parsed, rest⟩
  rcases bind_eq_ok rest with ⟨-, -, others⟩
  rcases bind_eq_ok others with ⟨⟨unlockKey, salt⟩, protects, last⟩
  cases last
  rcases bind_eq_ok parsed with ⟨payload, -, read⟩
  refine ⟨rfl, parsePayload_dated read, unlockKey, salt, rfl, rfl, ?_⟩
  unfold importProtection at protects
  cases fresh with
  | some fresh =>
    dsimp only at protects
    split at protects
    · cases protects
    · rcases bind_eq_ok protects with ⟨key, derived, made⟩
      cases made
      exact ⟨typed.1, derived⟩
  | none =>
    dsimp only at protects
    split at protects
    next unlocked wraps salted =>
      cases protects
      rcases (memory unlocked).key with ⟨key, salt, wrapped, other, sixteen, derived⟩
      rw [wraps, Option.some.injEq] at wrapped
      rw [salted, Option.some.injEq] at other
      rw [wrapped, other]
      exact ⟨sixteen, derived⟩
    · cases protects

theorem mutation_leaves (draws : SealDraws) (sha256 : Bytes -> Bytes) (correct : library.Correct)
    (mutation : Mutation) (around : Surroundings) (typed : around.draws.Typed) (files : VaultFiles)
    (memory : vault.unlocked = true -> Keyed library passphrase vault) :
    mutation.Leaves library vault files passphrase
      (mutation.run (sealedPrimitives library draws sha256) ⟨vault, .files files⟩ around) := by
  cases mutation with
  | saveProfile id key =>
    show Mutation.Leaves _ _ _ _ _ (saveProfile _ _ around id key)
    unfold saveProfile
    split
    · exact .failed rfl (Or.inl rfl)
    next unlocked =>
      split
      · exact .failed rfl (Or.inl rfl)
      · have keyed : Keyed library passphrase (vault.insertProfile id key) := by
          rcases memory (by simpa using unlocked) with ⟨unlocked, dated, key⟩
          exact ⟨unlocked, dated, key⟩
        dsimp only
        rcases persist_files draws sha256 correct keyed typed files with
          ⟨after, ⟨same, opens⟩ | ⟨error, same, readable⟩⟩
        · rw [same]
          exact .stored keyed opens
        · rw [same]
          exact .failed readable (Or.inr ⟨rfl, keyed⟩)
  | changePassphrase fresh =>
    show Mutation.Leaves _ _ _ _ _ (storePassphrase _ _ around fresh)
    unfold storePassphrase
    cases changed : changePassphrase (sealedPrimitives library draws sha256) vault around.draws fresh with
    | error error => exact .failed rfl (Or.inl rfl)
    | ok prepared =>
      rcases changePassphrase_persists files changed with ⟨unlocked, ⟨key, derived, same⟩, persists⟩
      have keyed : Keyed library fresh prepared.vault := by
        rw [same]
        exact ⟨unlocked, (memory unlocked).dated, key, around.draws.salt, rfl, rfl, typed.1, derived⟩
      dsimp only
      rw [← persists]
      rcases persist_files draws sha256 correct keyed typed files with
        ⟨after, ⟨same, opens⟩ | ⟨error, same, readable⟩⟩
      · rw [same]
        exact .stored keyed opens
      · rw [same]
        exact .failed readable (Or.inl rfl)
  | importBundle bundle recovery fresh allowReplacement =>
    show Mutation.Leaves _ _ _ _ _ (storeBundle _ _ around bundle recovery fresh allowReplacement)
    unfold storeBundle
    cases imported : importedMaterial (sealedPrimitives library draws sha256) vault around.draws bundle recovery fresh
        allowReplacement with
    | error error => exact .failed rfl (Or.inl rfl)
    | ok opened =>
      have keyed := importedMaterial_keyed memory typed imported
      unfold Storage.archiveBeforeReplacement replaceMaterial
      dsimp only
      split
      · exact .failed rfl (Or.inl rfl)
      · rcases persist_files draws sha256 correct keyed typed files with
          ⟨after, ⟨same, opens⟩ | ⟨error, same, readable⟩⟩
        · rw [same]
          exact .stored keyed opens
        · rw [same]
          exact .failed readable (Or.inl rfl)

/-! ## Runs keep the file -/

/-- The file opens to what is kept, and an unlocked vault is that, unless a profile is unsaved. -/
structure VaultRun.Sound (library : CryptoLibrary) (run : VaultRun) : Prop where
  opens : Opens library run.files.readable run.passphrase run.kept
  memory : run.vault.unlocked = true -> Keyed library run.passphrase run.vault ∧
    (run.unsaved = false -> run.vault.Alike run.kept)

theorem Opens.reopened {file : Bytes} {opened : OpenedVault} {other : Bytes}
    (opens : Opens library files.readable passphrase kept) (read : files.capturedBytes = .ok file)
    (done : openVaultFile library file other = .ok opened) :
    Opens library files.readable other (FileVault.opened opened) ∧ Keyed library other (FileVault.opened opened) := by
  rcases opens.header with ⟨written, payload, drawn, there, header⟩
  rw [capturedBytes_eq] at read
  refine ⟨⟨opens.header, file, opened, read, done, .refl _⟩, ?_⟩
  rw [there] at read
  change (if _ then _ else _) = _ at read
  split at read
  · cases read
  · cases read
    rcases bind_eq_ok done with ⟨inner, unsealed, rest⟩
    rcases bind_eq_ok rest with ⟨material, parsed, made⟩
    cases made
    rcases bind_eq_ok unsealed with ⟨found, same, more⟩
    rw [header, Except.ok.injEq] at same
    cases same
    rcases bind_eq_ok more with ⟨key, derived, last⟩
    split at last
    · cases last
    · cases last
      exact ⟨rfl, parsePayload_dated parsed, key, drawn.salt, rfl, rfl, drawn.salt_length, derived⟩

theorem VaultRun.step_sound (correct : library.Correct) {run next : VaultRun} {act : VaultAct}
    (sound : run.Sound library) (moved : run.step (sealedPrimitives library draws sha256) act = some next) :
    next.Sound library := by
  have locked : forall {vault kept passphrase files}, vault.unlocked = false ->
      Opens library files.readable passphrase kept ->
      Sound library ⟨vault, files, passphrase, kept, false⟩ := fun closed opens =>
    ⟨opens, fun unlocked => absurd unlocked (by rw [closed]; decide)⟩
  cases act with
  | call mutation around =>
    unfold step at moved
    dsimp only at moved
    split at moved
    next typed =>
      have leaves := mutation_leaves draws sha256 correct mutation around typed run.files fun unlocked =>
        (sound.memory unlocked).1
      generalize mutation.run _ _ around = outcome at leaves moved
      cases leaves with
      | stored keyed opens =>
        cases moved
        exact ⟨opens, fun _ => ⟨keyed, fun _ => .refl _⟩⟩
      | failed readable memory =>
        cases moved
        refine ⟨by rw [readable]; exact sound.opens, fun unlocked => ?_⟩
        rcases memory with rfl | ⟨saves, keyed⟩
        · have before := sound.memory unlocked
          exact ⟨before.1, fun clean => before.2 (Bool.or_eq_false_iff.mp clean).1⟩
        · exact ⟨keyed, fun clean => absurd saves (by rw [(Bool.or_eq_false_iff.mp clean).2]; decide)⟩
    · cases moved
  | unlock other =>
    unfold step at moved
    dsimp only at moved
    split at moved
    · cases moved
      exact sound
    next opened done =>
      cases moved
      rcases bind_eq_ok done with ⟨file, read, opening⟩
      rcases sound.opens.reopened read opening with ⟨opens, keyed⟩
      exact ⟨opens, fun _ => ⟨keyed, fun _ => .refl _⟩⟩
  | lock =>
    cases moved
    exact locked rfl sound.opens
  | stop mutation around accesses =>
    unfold step at moved
    dsimp only at moved
    split at moved
    next typed =>
      have leaves := mutation_leaves draws sha256 correct mutation { around with faults := ⟨fun _ => false, []⟩ } typed
        run.files fun unlocked => (sound.memory unlocked).1
      generalize mutation.run _ _ _ = outcome at leaves moved
      cases leaves with
      | stored keyed opens =>
        rcases opens.header with ⟨file, _, _, written, -⟩
        cases moved
        split
        next same =>
          refine locked rfl ?_
          rw [same]
          exact opens
        next other =>
          refine locked rfl ?_
          rcases leaves_readable ⟨_, around.faults, some accesses⟩ run.files with kept | new
          · rw [kept]
            exact sound.opens
          · refine absurd new ?_
            rw [written] at other ⊢
            exact other
      | failed =>
        cases moved
        exact locked rfl sound.opens
    · cases moved

/-- From the creation of a vault on, through calls that fail and stops in the middle of their
writes, the file that is read opens under the passphrase that protects it to the vault that
was stored last; and so does an unlocked vault, unless the saving of a profile failed. -/
theorem vault_file_always_opens (correct : library.Correct) {capture : FileCapture} {drawn : Draws} {prepared : Prepared}
    {acts : List VaultAct} {run : VaultRun} (typed : drawn.Typed)
    (created : createVault (sealedPrimitives library draws sha256) capture drawn passphrase = .ok prepared)
    (ran : (VaultRun.machine (sealedPrimitives library draws sha256)).Run Machine.anything
      (.created prepared passphrase) acts run) :
    (Exists fun file => Exists fun opened => run.files.capturedBytes = .ok file ∧
      openVaultFile library file run.passphrase = .ok opened ∧ (FileVault.opened opened).Alike run.kept) ∧
      (run.vault.unlocked = true -> run.unsaved = false -> run.vault.Alike run.kept) := by
  have sound : run.Sound library := by
    refine ran.invariant _ (fun _ _ _ _ sound moved => VaultRun.step_sound correct sound moved) ?_
    unfold createVault at created
    split at created
    · cases created
    · split at created
      · cases created
      · rcases bind_eq_ok created with ⟨unlockKey, derived, rest⟩
        rcases bind_eq_ok rest with ⟨file, persisted, made⟩
        cases made
        have keyed : Keyed library passphrase
            (FileVault.opened ⟨⟨drawn.now, drawn.key, ∅⟩, unlockKey, drawn.salt⟩) :=
          ⟨rfl, typed.2.2, unlockKey, drawn.salt, rfl, rfl, typed.1, derived⟩
        exact ⟨persisted_opens correct keyed typed.2.1 persisted, fun _ => ⟨keyed, fun _ => .refl _⟩⟩
  refine ⟨?_, fun unlocked => (sound.memory unlocked).2⟩
  rw [capturedBytes_eq]
  exact sound.opens.opens

end Runs

/-- A profile is saved, the vault is unlocked again, and the process stops while the
passphrase is changed, when the new file is in its place. -/
def stoppedChange : List VaultAct :=
  [.call (.saveProfile "a" zeroKey) quietSurroundings, .lock, .unlock (List.replicate 8 1),
    .stop (.changePassphrase (List.replicate 8 2)) quietSurroundings 4]

theorem stopped_change_opens : Exists fun run : VaultRun => run.passphrase = List.replicate 8 2 ∧
    Exists fun file => Exists fun opened => run.files.capturedBytes = .ok file ∧
      openVaultFile plainLibrary file run.passphrase = .ok opened ∧ (FileVault.opened opened).Alike run.kept := by
  let primitives := sealedPrimitives plainLibrary plainDraws id
  have reached : (createVault primitives ⟨false, none, .create⟩ quietSurroundings.draws (List.replicate 8 1)).toOption.any
      (fun prepared => ((VaultRun.machine primitives).replay (.created prepared (List.replicate 8 1)) stoppedChange).any
        fun run => decide (run.passphrase = List.replicate 8 2)) = true := by decide +kernel
  cases created : createVault primitives ⟨false, none, .create⟩ quietSurroundings.draws (List.replicate 8 1) with
  | error error =>
    rw [created] at reached
    cases reached
  | ok prepared =>
    rw [created] at reached
    rcases Machine.exists_run reached with ⟨run, ran, passphrase⟩
    exact ⟨run, passphrase, (vault_file_always_opens plainLibrary_correct (by decide) created ran).1⟩

end Crypto
end TelegramDrive
