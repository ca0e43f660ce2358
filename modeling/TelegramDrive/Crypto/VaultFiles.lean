import TelegramDrive.Crypto.Vault

namespace TelegramDrive
namespace Crypto

/-!
# The files of the vault

A vault is stored in one file, with a backup beside it while it is being replaced.  The
new content is written to a third file first and renamed into place.  Every access of a
file can fail, and the process can stop after any of them: a trace lists what the files
are after each access, so where the process may stop is a position in the trace.

The primary file is read if there is one, and the backup otherwise.
-/

structure VaultFiles where
  primary : Option Bytes
  backup : Option Bytes
  part : Option Bytes
deriving DecidableEq

/-! ## Reading -/

def vaultHeaderSize : Nat := 64
def maxVaultCiphertext : Nat := 1024 * 1024

/-- `capture_file`, of what is there. -/
def captureFile : Option Bytes -> CryptoResult (Option Bytes)
  | none => .ok none
  | some bytes =>
    if vaultHeaderSize + maxVaultCiphertext < bytes.length then
      .error ⟨.headerInvalid, "Vault file exceeds policy"⟩
    else .ok (some bytes)

def vaultMissing : CryptoError := ⟨.keyRequired, "Vault does not exist"⟩

namespace VaultFiles

def capturedBytes (files : VaultFiles) : CryptoResult Bytes :=
  match captureFile files.primary with
  | .error error => .error error
  | .ok (some bytes) => .ok bytes
  | .ok none =>
    match captureFile files.backup with
    | .error error => .error error
    | .ok (some bytes) => .ok bytes
    | .ok none => .error vaultMissing

/-- The file at `readable_path`. -/
def readable (files : VaultFiles) : Option Bytes := files.primary.or files.backup

end VaultFiles

/-- What a capture makes of the readable file. -/
def captured : Option Bytes -> CryptoResult Bytes
  | none => .error vaultMissing
  | some bytes =>
    if vaultHeaderSize + maxVaultCiphertext < bytes.length then
      .error ⟨.headerInvalid, "Vault file exceeds policy"⟩
    else .ok bytes

theorem capturedBytes_eq (files : VaultFiles) : files.capturedBytes = captured files.readable := by
  unfold VaultFiles.capturedBytes VaultFiles.readable captureFile captured
  cases files.primary with
  | some bytes =>
    rw [Option.some_or]
    by_cases large : vaultHeaderSize + maxVaultCiphertext < bytes.length
    · simp only [large, if_true]
    · simp only [large, if_false]
  | none =>
    rw [Option.none_or]
    cases files.backup with
    | none => rfl
    | some bytes =>
      by_cases large : vaultHeaderSize + maxVaultCiphertext < bytes.length
      · simp only [large, if_true]
      · simp only [large, if_false]

/-! ## Writing -/

inductive FileStep
  | createDirectory
  | openPart
  | writePart
  | removeOld
  | setAside
  | publish
  | rollBack
  | cleanUp
deriving DecidableEq

/-- Which accesses fail, and what a write has put down before it ends or fails. -/
structure Faults where
  fails : FileStep -> Bool
  torn : Bytes

/-- What the files are after each access, and how the call ends. -/
structure Trace where
  states : List VaultFiles
  result : CryptoResult Unit

namespace Trace

/-- An access that fails leaves the files as they are. -/
def stopped : Trace := ⟨[], .error ⟨.ioError, "IO error"⟩⟩

def after (trace : Trace) (states : List VaultFiles) : Trace := ⟨states ++ trace.states, trace.result⟩

def final (trace : Trace) (files : VaultFiles) : VaultFiles := trace.states.getLastD files

end Trace

namespace VaultFiles

variable (faults : Faults)

/-- The rename that commits, and the cleanup or the roll-back behind it. -/
def publish (files : VaultFiles) : Trace :=
  if faults.fails .publish then
    if files.backup.isSome && files.primary.isNone && !faults.fails .rollBack then
      Trace.stopped.after [{ files with primary := files.backup, backup := none }]
    else .stopped
  else
    let published := { files with primary := files.part, part := none }
    if files.backup.isSome && !faults.fails .cleanUp then
      ⟨[published, { published with backup := none }], .ok ()⟩
    else ⟨[published], .ok ()⟩

def setAside (files : VaultFiles) : Trace :=
  if faults.fails .setAside then .stopped
  else
    let aside := { files with primary := none, backup := files.primary }
    (aside.publish faults).after [aside]

def replacePrimary (files : VaultFiles) : Trace :=
  if files.primary.isNone then files.publish faults
  else if files.backup.isNone then files.setAside faults
  else if faults.fails .removeOld then .stopped
  else
    let cleared := { files with backup := none }
    (cleared.setAside faults).after [cleared]

/-- `atomic_write`, outside a preparation. -/
def atomicWrite (files : VaultFiles) (bytes : Bytes) : Trace :=
  if faults.fails .createDirectory then .stopped
  else if faults.fails .openPart then .stopped
  else
    let opened := { files with part := some [] }
    let torn := { files with part := some faults.torn }
    if faults.fails .writePart then Trace.stopped.after [opened, torn]
    else
      let written := { files with part := some bytes }
      (written.replacePrimary faults).after [opened, torn, written]

end VaultFiles

/-! ## One content or the other -/

/-- At every access the old content is readable or the new one, and which of them it is in
the end the result says. -/
structure Trace.Replaces (trace : Trace) (files : VaultFiles) (bytes : Bytes) : Prop where
  meanwhile : forall middle, middle ∈ trace.states ->
    middle.readable = files.readable ∨ middle.readable = some bytes
  done : trace.result = .ok () -> (trace.final files).readable = some bytes
  failed : forall error, trace.result = .error error -> (trace.final files).readable = files.readable

variable {files next : VaultFiles} {bytes : Bytes} {trace : Trace} (faults : Faults)

theorem Trace.Replaces.stopped : Trace.stopped.Replaces files bytes := by
  constructor
  · intro middle member
    cases member
  · intro done
    cases done
  · intro error _
    rfl

/-- Accesses that leave the old content readable can come first. -/
theorem Trace.Replaces.after (before : List VaultFiles) (replaces : trace.Replaces next bytes)
    (kept : forall middle, middle ∈ before ++ [next] -> middle.readable = files.readable) :
    (trace.after (before ++ [next])).Replaces files bytes := by
  have same : next.readable = files.readable := kept next (List.mem_append_right _ (List.mem_singleton_self _))
  have final : (trace.after (before ++ [next])).final files = trace.final next := by
    unfold Trace.final Trace.after
    cases trace.states with
    | nil => simp
    | cons first rest =>
      simp [List.getLastD_eq_getLast?, List.getLast?_eq_some_getLast]
  constructor
  · intro middle member
    rcases List.mem_append.mp member with early | late
    · exact Or.inl (kept middle early)
    · rcases replaces.meanwhile middle late with old | new
      · exact Or.inl (old.trans same)
      · exact Or.inr new
  · intro done
    rw [final]
    exact replaces.done done
  · intro error failed
    rw [final, replaces.failed error failed, same]

theorem publish_replaces (part : files.part = some bytes) : (files.publish faults).Replaces files bytes := by
  unfold VaultFiles.publish
  split
  · split
    next rolls =>
      rw [Bool.and_eq_true, Bool.and_eq_true, Option.isNone_iff_eq_none] at rolls
      refine Trace.Replaces.after [] .stopped ?_
      intro middle member
      rw [List.mem_singleton.mp member]
      show files.backup.or none = files.primary.or files.backup
      rw [rolls.1.2, Option.or_none, Option.none_or]
    · exact .stopped
  · have committed : files.part.or files.backup = some bytes := by rw [part, Option.some_or]
    dsimp only
    split
    · constructor
      · intro middle member
        rcases List.mem_cons.mp member with rfl | last
        · exact Or.inr committed
        · rw [List.mem_singleton.mp last]
          exact Or.inr (by rw [VaultFiles.readable, part, Option.some_or])
      · intro _
        show files.part.or none = some bytes
        rw [part, Option.some_or]
      · intro error failed
        cases failed
    · constructor
      · intro middle member
        rw [List.mem_singleton.mp member]
        exact Or.inr committed
      · intro _
        exact committed
      · intro error failed
        cases failed

theorem setAside_replaces (part : files.part = some bytes) (present : files.primary.isSome = true) :
    (files.setAside faults).Replaces files bytes := by
  unfold VaultFiles.setAside
  split
  · exact .stopped
  · refine Trace.Replaces.after [] (publish_replaces faults part) ?_
    intro middle member
    rw [List.mem_singleton.mp member]
    show Option.or none files.primary = files.primary.or files.backup
    rw [Option.none_or, Option.or_of_isSome present]

theorem replacePrimary_replaces (part : files.part = some bytes) :
    (files.replacePrimary faults).Replaces files bytes := by
  unfold VaultFiles.replacePrimary
  split
  · exact publish_replaces faults part
  next present =>
    have there : files.primary.isSome = true := by
      rw [← Option.isNone_eq_false_iff]
      exact Bool.eq_false_iff.mpr present
    split
    · exact setAside_replaces faults part there
    · split
      · exact .stopped
      · refine Trace.Replaces.after [] (setAside_replaces faults part there) ?_
        intro middle member
        rw [List.mem_singleton.mp member]
        show files.primary.or none = files.primary.or files.backup
        rw [Option.or_none, Option.or_of_isSome there]

theorem atomicWrite_replaces (files : VaultFiles) (bytes : Bytes) :
    (files.atomicWrite faults bytes).Replaces files bytes := by
  have untouched : forall part, ({ files with part := part } : VaultFiles).readable = files.readable := fun _ => rfl
  unfold VaultFiles.atomicWrite
  split
  · exact .stopped
  · split
    · exact .stopped
    · dsimp only
      split
      · refine Trace.Replaces.after [_] .stopped ?_
        intro middle member
        rcases List.mem_cons.mp member with rfl | last
        · exact untouched _
        · rw [List.mem_singleton.mp last, untouched]
      · refine Trace.Replaces.after [_, _] (replacePrimary_replaces faults rfl) ?_
        intro middle member
        rcases List.mem_cons.mp member with rfl | rest
        · exact untouched _
        · rcases List.mem_cons.mp rest with rfl | last
          · exact untouched _
          · rw [List.mem_singleton.mp last, untouched]

/-! ## Attempts one after another -/

/-- A write that runs to its end, or until the process stops after some accesses. -/
structure Attempt where
  bytes : Bytes
  faults : Faults
  stop : Option Nat

/-- The files that an attempt leaves. -/
def Attempt.leaves (attempt : Attempt) (files : VaultFiles) : VaultFiles :=
  let states := (files.atomicWrite attempt.faults attempt.bytes).states
  match attempt.stop with
  | none => states.getLastD files
  | some count => (states.take count).getLastD files

def afterAttempts (files : VaultFiles) (attempts : List Attempt) : VaultFiles :=
  attempts.foldl (fun files attempt => attempt.leaves files) files

theorem getLastD_cases (states : List VaultFiles) (files : VaultFiles) :
    states.getLastD files = files ∨ states.getLastD files ∈ states := by
  cases states with
  | nil => exact Or.inl rfl
  | cons first rest => exact Or.inr (by rw [List.getLastD_cons]; exact List.getLastD_mem_cons)

theorem leaves_readable (attempt : Attempt) (files : VaultFiles) :
    (attempt.leaves files).readable = files.readable ∨ (attempt.leaves files).readable = some attempt.bytes := by
  have replaces := atomicWrite_replaces attempt.faults files attempt.bytes
  unfold Attempt.leaves
  cases attempt.stop with
  | none =>
    rcases getLastD_cases (files.atomicWrite attempt.faults attempt.bytes).states files with same | member
    · exact Or.inl (congrArg VaultFiles.readable same)
    · exact replaces.meanwhile _ member
  | some count =>
    rcases getLastD_cases ((files.atomicWrite attempt.faults attempt.bytes).states.take count) files with
      same | member
    · exact Or.inl (congrArg VaultFiles.readable same)
    · exact replaces.meanwhile _ (List.mem_of_mem_take member)

theorem afterAttempts_readable (files : VaultFiles) (attempts : List Attempt) :
    (afterAttempts files attempts).readable = files.readable ∨
      Exists fun attempt => attempt ∈ attempts ∧ (afterAttempts files attempts).readable = some attempt.bytes := by
  induction attempts generalizing files with
  | nil => exact Or.inl rfl
  | cons attempt attempts ih =>
    rcases ih (attempt.leaves files) with kept | ⟨later, member, new⟩
    · rcases leaves_readable attempt files with old | written
      · exact Or.inl (kept.trans old)
      · exact Or.inr ⟨attempt, List.mem_cons_self, kept.trans written⟩
    · exact Or.inr ⟨later, List.mem_cons_of_mem _ member, new⟩

/-- A write after any number of attempts, from whatever files, leaves the old content or
the new one to be read after each of its accesses: the new one when it returns `Ok`, and
the old one when it returns an error.  What is there before it is the first content or
that of an attempt. -/
theorem atomic_write_replaces (files : VaultFiles) (attempts : List Attempt) (faults : Faults) (bytes : Bytes) :
    let before := afterAttempts files attempts
    let trace := before.atomicWrite faults bytes
    (forall middle, middle ∈ trace.states ->
      middle.capturedBytes = before.capturedBytes ∨ middle.capturedBytes = captured (some bytes)) ∧
    (trace.result = .ok () -> (trace.final before).capturedBytes = captured (some bytes)) ∧
    (forall error, trace.result = .error error ->
      (trace.final before).capturedBytes = before.capturedBytes) ∧
    (before.capturedBytes = files.capturedBytes ∨
      Exists fun attempt => attempt ∈ attempts ∧ before.capturedBytes = captured (some attempt.bytes)) := by
  dsimp only
  have replaces := atomicWrite_replaces faults (afterAttempts files attempts) bytes
  simp only [capturedBytes_eq]
  refine ⟨?_, ?_, ?_, ?_⟩
  · intro middle member
    exact (replaces.meanwhile middle member).imp (congrArg captured) (congrArg captured)
  · intro done
    rw [replaces.done done]
  · intro error failed
    rw [replaces.failed error failed]
  · rcases afterAttempts_readable files attempts with old | ⟨attempt, member, new⟩
    · exact Or.inl (congrArg captured old)
    · exact Or.inr ⟨attempt, member, congrArg captured new⟩

end Crypto
end TelegramDrive
