import TelegramDrive.Library.Machine
import TelegramDrive.Crypto.Vault

namespace TelegramDrive
namespace Crypto

/-!
# The central state of the vault

Every entry point takes the mutex once and runs to its end under it, so each is
one function of the state behind it.  The exception is an operation on the vault
itself: it takes a snapshot under the mutex, derives keys without it, and takes
it again to publish what it prepared.  A ticket is such an operation between the
two; arbitrarily many run at the same time, and each may be dropped at any point.

Times are counted from the start of the program in a fixed unit.  A handle is
any number that the table it is for does not have yet.
-/

/-! ## State -/

/-- One second. -/
def second : Nat := 1000000000

def promptSecretTtl : Nat := 5 * 60 * second

def mediaOperationTtl : Nat := 4 * 60 * 60 * second

inductive OperationClass
  | upload
  | download
  | preview
  | mediaStream
  | archive
  | share
  | admin
deriving DecidableEq

structure SessionInfo where
  wrappingKey : SecretKey

structure OperationInfo where
  sessionId : UInt64
  createdAt : Nat
  operationClass : OperationClass

structure PromptSecret where
  createdAt : Nat
  secret : Bytes

structure CryptoFeatureFlags where
  coreAvailable : Bool := true
  modeAlpha : Bool := true
  uploadEnabled : Bool := true
  readEnabled : Bool := true
  shareEnabled : Bool := false
  migrationEnabled : Bool := false

structure CryptoStateInner where
  revision : UInt64
  vault : FileVault
  currentSession : Option UInt64
  sessions : Std.TreeMap UInt64 SessionInfo
  operationHandles : Std.TreeMap UInt64 OperationInfo
  promptSecrets : Std.TreeMap UInt64 PromptSecret
  features : CryptoFeatureFlags
  autoLockTimeout : Option Nat
  lastActivity : Nat
  locked : Bool

namespace CryptoStateInner

def new : CryptoStateInner where
  revision := 0
  vault := FileVault.new
  currentSession := none
  sessions := ∅
  operationHandles := ∅
  promptSecrets := ∅
  features := {}
  autoLockTimeout := some (15 * 60 * second)
  lastActivity := 0
  locked := true

/-- `lock_inner`. -/
def lockInner (inner : CryptoStateInner) : CryptoStateInner :=
  { inner with
    revision := inner.revision + 1
    vault := inner.vault.lock
    currentSession := none
    sessions := ∅
    operationHandles := ∅
    promptSecrets := ∅
    locked := true }

/-- The time since the last activity has reached the timeout. -/
def autoLockDue (inner : CryptoStateInner) (now : Nat) : Bool :=
  inner.autoLockTimeout.any fun timeout => decide (timeout ≤ now - inner.lastActivity)

/-! ## Sessions and handles -/

def validateSession (inner : CryptoStateInner) (session : UInt64) : CryptoResult Unit :=
  if inner.locked ∨ inner.currentSession ≠ some session then .error .vaultLocked
  else if session ∉ inner.sessions then .error .vaultLocked
  else .ok ()

/-- Media handles expire. -/
def retainOperations (inner : CryptoStateInner) (now : Nat) : CryptoStateInner :=
  { inner with
    operationHandles := inner.operationHandles.filter fun _ operation =>
      decide (operation.operationClass ≠ .mediaStream ∨ now - operation.createdAt ≤ mediaOperationTtl) }

/-- `create_operation_handle`, which drew `handle`. -/
def createOperationHandle (inner : CryptoStateInner) (now : Nat) (session : UInt64)
    (operationClass : OperationClass) (handle : UInt64) : CryptoResult (CryptoStateInner × UInt64) :=
  if inner.locked ∨ inner.currentSession ≠ some session then .error .vaultLocked
  else
    let retained := inner.retainOperations now
    .ok
      ({ retained with
          operationHandles := retained.operationHandles.insert handle
            { sessionId := session, createdAt := now, operationClass := operationClass } },
        handle)

def operationWrappingKey (inner : CryptoStateInner) (now : Nat) (handle : UInt64)
    (operationClass : OperationClass) : CryptoStateInner × CryptoResult SecretKey :=
  if inner.locked then (inner, .error .vaultLocked)
  else
    let retained := inner.retainOperations now
    match retained.operationHandles[handle]? with
    | none => (retained, .error .vaultLocked)
    | some operation =>
      if operation.operationClass ≠ operationClass ∨
          retained.currentSession ≠ some operation.sessionId then
        (retained, .error .vaultLocked)
      else
        match retained.sessions[operation.sessionId]? with
        | none => (retained, .error .vaultLocked)
        | some session => ({ retained with lastActivity := now }, .ok session.wrappingKey)

def validateOperation (inner : CryptoStateInner) (now : Nat) (handle : UInt64)
    (operationClass : OperationClass) : CryptoResult Unit :=
  match inner.operationHandles[handle]? with
  | none => .error .vaultLocked
  | some operation =>
    if inner.locked ∨ operation.operationClass ≠ operationClass ∨
        inner.currentSession ≠ some operation.sessionId ∨ operation.sessionId ∉ inner.sessions ∨
        (operationClass = .mediaStream ∧ mediaOperationTtl < now - operation.createdAt) then
      .error .vaultLocked
    else .ok ()

def revokeOperationHandle (inner : CryptoStateInner) (handle : UInt64) : CryptoStateInner :=
  { inner with operationHandles := inner.operationHandles.erase handle }

def getWrappingKey (inner : CryptoStateInner) (session : UInt64) : CryptoResult SecretKey :=
  if inner.locked then .error .vaultLocked
  else match inner.sessions[session]? with
    | none => .error .vaultLocked
    | some info => .ok info.wrappingKey

def currentCredential (inner : CryptoStateInner) : CryptoResult (UInt64 × SecretKey) :=
  if inner.locked then .error .vaultLocked
  else match inner.currentSession with
    | none => .error .vaultLocked
    | some session => match inner.sessions[session]? with
      | none => .error .vaultLocked
      | some info => .ok (session, info.wrappingKey)

/-- `with_current_session`, of an operation that returns `value`. -/
def withCurrentSession {α : Type} (inner : CryptoStateInner) (session : UInt64) (value : α) :
    CryptoResult α :=
  if inner.locked ∨ inner.currentSession ≠ some session ∨ session ∉ inner.sessions then
    .error .vaultLocked
  else .ok value

/-- `current_session`. -/
def visibleSession (inner : CryptoStateInner) : Option UInt64 :=
  if inner.locked then none else inner.currentSession

/-! ## Prompt secrets, features and activity -/

/-- Staged secrets expire. -/
def retainPromptSecrets (inner : CryptoStateInner) (now : Nat) : CryptoStateInner :=
  { inner with
    promptSecrets := inner.promptSecrets.filter fun _ entry =>
      decide (now - entry.createdAt ≤ promptSecretTtl) }

def stagePromptSecret (inner : CryptoStateInner) (now : Nat) (secret : Bytes) (handle : UInt64) :
    CryptoResult (CryptoStateInner × UInt64) :=
  if secret.length < 8 ∨ 1024 < secret.length then
    .error ⟨.policyRejected, "File passphrase must be between 8 and 1024 bytes"⟩
  else
    let retained := inner.retainPromptSecrets now
    .ok ({ retained with promptSecrets := retained.promptSecrets.insert handle ⟨now, secret⟩ }, handle)

def consumePromptSecret (inner : CryptoStateInner) (now : Nat) (handle : UInt64) :
    CryptoStateInner × CryptoResult Bytes :=
  match inner.promptSecrets[handle]? with
  | none => (inner, .error ⟨.keyRequired, "Passphrase prompt expired or was already used"⟩)
  | some entry =>
    ({ inner with promptSecrets := inner.promptSecrets.erase handle },
      if promptSecretTtl < now - entry.createdAt then
        .error ⟨.keyRequired, "Passphrase prompt expired or was already used"⟩
      else .ok entry.secret)

def setFeatures (inner : CryptoStateInner) (features : CryptoFeatureFlags) : CryptoStateInner :=
  { inner with features := features, revision := inner.revision + 1 }

def setAutoLockTimeout (inner : CryptoStateInner) (timeout : Option Nat) : CryptoStateInner :=
  { inner with autoLockTimeout := timeout }

/-- `lock_if_auto_lock_due`, and whether it was. -/
def lockIfAutoLockDue (inner : CryptoStateInner) (now : Nat) : CryptoStateInner × Bool :=
  if !inner.locked && inner.autoLockDue now then (inner.lockInner, true) else (inner, false)

/-- `record_activity`, and whether it locked the vault. -/
def recordActivity (inner : CryptoStateInner) (now : Nat) : CryptoStateInner × Bool :=
  if inner.locked then (inner, false)
  else if inner.autoLockDue now then (inner.lockInner, true)
  else ({ inner with lastActivity := now }, false)

end CryptoStateInner

/-! ## Operations on the vault -/

/-- What moves the revision. -/
inductive Change
  | locked
  | features
  | committed (kind : Kind)
deriving DecidableEq

/-- An operation between its snapshot and its publication.  `taken` is the number
of changes before the snapshot, for the statements only. -/
structure Ticket where
  operation : Operation
  revision : UInt64
  session : Option UInt64
  vault : FileVault
  taken : Nat
  prepared : Option Prepared

/-- The first part of `run_vault_operation`. -/
def takeSnapshot (inner : CryptoStateInner) (taken : Nat) (operation : Operation) :
    CryptoResult Ticket :=
  if operation.requiresUnlocked && inner.locked then
    if operation.kind = .importRecovery then
      .error ⟨.keyRequired, "[RECOVERY_VAULT_PASSPHRASE_REQUIRED] Choose the passphrase that will " ++
        "unlock the restored vault"⟩
    else .error .vaultLocked
  else
    .ok
      { operation := operation
        revision := inner.revision
        session := inner.currentSession
        vault := inner.vault
        taken := taken
        prepared := none }

/-- The state is no longer that of the snapshot. -/
def Ticket.stale (ticket : Ticket) (inner : CryptoStateInner) : Bool :=
  decide (inner.revision ≠ ticket.revision ∨ inner.currentSession ≠ ticket.session ∨
    (ticket.operation.requiresUnlocked = true ∧ inner.locked = true))

/-- The publication of an operation that opens a session. -/
def openSession (kind : Kind) (prepared : Prepared) (inner : CryptoStateInner) (now : Nat)
    (drawn : UInt64) : CryptoStateInner × Option Change × CryptoResult Value :=
  match prepared.vault.wrappingKey with
  | .error error => (inner, none, .error error)
  | .ok wrappingKey =>
    ({ inner with
        sessions := (if kind = .importRecovery then ∅ else inner.sessions).insert drawn ⟨wrappingKey⟩
        currentSession := some drawn
        locked := false
        vault := prepared.vault
        revision := inner.revision + 1
        lastActivity := now },
      some (.committed kind), .ok (.session drawn))

/-- The last part of `run_vault_operation`, with the change it made. -/
def publish (ticket : Ticket) (prepared : Prepared) (inner : CryptoStateInner) (now : Nat)
    (files : FileCommit) (drawn : UInt64) : CryptoStateInner × Option Change × CryptoResult Value :=
  if ticket.stale inner then
    (inner, none, .error ⟨.policyRejected, "VAULT_CHANGED: Vault state changed during preparation"⟩)
  else if ticket.operation.requiresUnlocked && inner.autoLockDue now then
    (inner.lockInner, some .locked, .error .vaultLocked)
  else
    match (if ticket.operation.kind = .exportRecovery ∨ ticket.operation.kind = .verifyRecovery then
        .ok () else commitPrepared ticket.operation.diskAccess prepared files) with
    | .error error => (inner, none, .error error)
    | .ok () =>
      match ticket.operation.kind with
      | .create | .unlock | .importRecovery =>
        openSession ticket.operation.kind prepared inner now drawn
      | .change =>
        ({ inner with
            vault := prepared.vault
            revision := inner.revision + 1
            lastActivity := now },
          some (.committed .change), .ok .unit)
      | .exportRecovery | .verifyRecovery =>
        ({ inner with lastActivity := now }, none, .ok prepared.value)

/-- What a publication can do. -/
inductive Publishes (ticket : Ticket) (prepared : Prepared) (inner : CryptoStateInner) (now : Nat)
    (drawn : UInt64) : CryptoStateInner × Option Change × CryptoResult Value -> Prop
  | refused (error : CryptoError) : Publishes ticket prepared inner now drawn (inner, none, .error error)
  | expired (error : CryptoError) :
      Publishes ticket prepared inner now drawn (inner.lockInner, some .locked, .error error)
  | opened {wrappingKey : SecretKey} (current : ticket.stale inner = false)
      (opens : ticket.operation.kind.opensSession = true)
      (held : prepared.vault.wrappingKey = .ok wrappingKey) :
      Publishes ticket prepared inner now drawn
        ({ inner with
            sessions := (if ticket.operation.kind = .importRecovery then ∅
              else inner.sessions).insert drawn ⟨wrappingKey⟩
            currentSession := some drawn
            locked := false
            vault := prepared.vault
            revision := inner.revision + 1
            lastActivity := now },
          some (.committed ticket.operation.kind), .ok (.session drawn))
  | changed (current : ticket.stale inner = false) (changes : ticket.operation.kind = .change) :
      Publishes ticket prepared inner now drawn
        ({ inner with
            vault := prepared.vault
            revision := inner.revision + 1
            lastActivity := now },
          some (.committed .change), .ok .unit)
  | read (value : Value) :
      Publishes ticket prepared inner now drawn ({ inner with lastActivity := now }, none, .ok value)

theorem openSession_publishes {ticket : Ticket} {prepared : Prepared} {inner : CryptoStateInner}
    {now : Nat} {drawn : UInt64} (current : ticket.stale inner = false)
    (opens : ticket.operation.kind.opensSession = true) :
    Publishes ticket prepared inner now drawn
      (openSession ticket.operation.kind prepared inner now drawn) := by
  unfold openSession
  split
  · exact .refused _
  next held => exact .opened current opens held

theorem publishes (ticket : Ticket) (prepared : Prepared) (inner : CryptoStateInner) (now : Nat)
    (files : FileCommit) (drawn : UInt64) :
    Publishes ticket prepared inner now drawn (publish ticket prepared inner now files drawn) := by
  unfold publish
  split
  · exact .refused _
  next stale =>
    have current := Bool.eq_false_iff.mpr stale
    split
    · exact .expired _
    · split
      · exact .refused _
      · split
        next kind => exact openSession_publishes current (by rw [kind]; rfl)
        next kind => exact openSession_publishes current (by rw [kind]; rfl)
        next kind => exact openSession_publishes current (by rw [kind]; rfl)
        next kind => exact .changed current kind
        · exact .read _
        · exact .read _

/-! ## The machine -/

/-- The state, the operations between their two parts, and the changes so far,
the last one first. -/
structure CryptoState where
  inner : CryptoStateInner
  now : Nat
  running : List Ticket
  changes : List Change

namespace CryptoState

def initial : CryptoState where
  inner := .new
  now := 0
  running := []
  changes := []

/-- What changed since the snapshot of an operation. -/
def since (state : CryptoState) (ticket : Ticket) : List Change :=
  state.changes.take (state.changes.length - ticket.taken)

end CryptoState

inductive VaultEvent
  | wait (duration : Nat)
  | begin (operation : Operation)
  | prepare (index : Nat) (file : Option Bytes) (draws : Draws)
  | finish (index : Nat) (files : FileCommit) (drawn : UInt64)
  | drop (index : Nat)
  | lock
  | lockIfAutoLockDue
  | recordActivity
  | setFeatures (features : CryptoFeatureFlags)
  | setAutoLockTimeout (timeout : Option Nat)
  | createOperationHandle (session : UInt64) (operationClass : OperationClass) (drawn : UInt64)
  | revokeOperationHandle (handle : UInt64)
  | operationWrappingKey (handle : UInt64) (operationClass : OperationClass)
  | stagePromptSecret (secret : Bytes) (drawn : UInt64)
  | consumePromptSecret (handle : UInt64)

/-- The state after a function of the inner state that may have locked the vault. -/
def CryptoState.relock (state : CryptoState) (result : CryptoStateInner × Bool) : CryptoState :=
  { state with
    inner := result.1
    changes := if result.2 then .locked :: state.changes else state.changes }

section Machine

variable (primitives : VaultPrimitives)

/-- The preparation of a running operation; a failed one ends the operation. -/
def CryptoState.prepare (state : CryptoState) (index : Nat) (file : Option Bytes) (draws : Draws) :
    Option CryptoState :=
  match state.running[index]? with
  | none => none
  | some ticket =>
    match ticket.prepared with
    | some _ => none
    | none =>
      match Crypto.prepare primitives ticket.vault
          (capturePreparationFiles file ticket.operation.diskAccess) draws ticket.operation with
      | .error _ => some { state with running := state.running.eraseIdx index }
      | .ok prepared =>
        some { state with running := state.running.set index { ticket with prepared := some prepared } }

/-- The publication of a prepared operation. -/
def CryptoState.finish (state : CryptoState) (index : Nat) (files : FileCommit) (drawn : UInt64) :
    Option CryptoState :=
  match state.running[index]? with
  | none => none
  | some ticket =>
    match ticket.prepared with
    | none => none
    | some prepared =>
      if drawn ≠ 0 ∧ drawn ∉ state.inner.sessions then
        let (inner, change, _) := publish ticket prepared state.inner state.now files drawn
        some
          { state with
            inner := inner
            running := state.running.eraseIdx index
            changes := change.toList ++ state.changes }
      else none

def vaultMachine : Machine CryptoState VaultEvent where
  step state
    | .wait duration => some { state with now := state.now + duration }
    | .begin operation =>
      match takeSnapshot state.inner state.changes.length operation with
      | .error _ => some state
      | .ok ticket => some { state with running := state.running ++ [ticket] }
    | .prepare index file draws => state.prepare primitives index file draws
    | .finish index files drawn => state.finish index files drawn
    | .drop index => some { state with running := state.running.eraseIdx index }
    | .lock => some { state with inner := state.inner.lockInner, changes := .locked :: state.changes }
    | .lockIfAutoLockDue => some (state.relock (state.inner.lockIfAutoLockDue state.now))
    | .recordActivity => some (state.relock (state.inner.recordActivity state.now))
    | .setFeatures features =>
      some
        { state with
          inner := state.inner.setFeatures features
          changes := .features :: state.changes }
    | .setAutoLockTimeout timeout =>
      some { state with inner := state.inner.setAutoLockTimeout timeout }
    | .createOperationHandle session operationClass drawn =>
      if drawn ≠ 0 ∧ drawn ∉ (state.inner.retainOperations state.now).operationHandles then
        match state.inner.createOperationHandle state.now session operationClass drawn with
        | .error _ => some state
        | .ok (inner, _) => some { state with inner := inner }
      else none
    | .revokeOperationHandle handle =>
      some { state with inner := state.inner.revokeOperationHandle handle }
    | .operationWrappingKey handle operationClass =>
      some
        { state with
          inner := (state.inner.operationWrappingKey state.now handle operationClass).1 }
    | .stagePromptSecret secret drawn =>
      if drawn ≠ 0 ∧ drawn ∉ (state.inner.retainPromptSecrets state.now).promptSecrets then
        match state.inner.stagePromptSecret state.now secret drawn with
        | .error _ => some state
        | .ok (inner, _) => some { state with inner := inner }
      else none
    | .consumePromptSecret handle =>
      some { state with inner := (state.inner.consumePromptSecret state.now handle).1 }

end Machine

/-! ## What the steps do -/

section Inversion

variable {primitives : VaultPrimitives} {state next : CryptoState}

theorem prepare_eq_some {index : Nat} {file : Option Bytes} {draws : Draws}
    (moved : state.prepare primitives index file draws = some next) :
    Exists fun ticket => state.running[index]? = some ticket ∧
      (next = { state with running := state.running.eraseIdx index } ∨
        Exists fun capture => Exists fun prepared =>
          Crypto.prepare primitives ticket.vault capture draws ticket.operation = .ok prepared ∧
          next = { state with
            running := state.running.set index { ticket with prepared := some prepared } }) := by
  unfold CryptoState.prepare at moved
  split at moved
  · cases moved
  next ticket present =>
    refine ⟨ticket, present, ?_⟩
    split at moved
    · cases moved
    · split at moved
      · cases moved
        exact .inl rfl
      next prepared done =>
        cases moved
        exact .inr ⟨_, prepared, done, rfl⟩

theorem finish_eq_some {index : Nat} {files : FileCommit} {drawn : UInt64}
    (moved : state.finish index files drawn = some next) :
    Exists fun ticket => Exists fun prepared => Exists fun published =>
      state.running[index]? = some ticket ∧ ticket.prepared = some prepared ∧
      drawn ∉ state.inner.sessions ∧
      published = publish ticket prepared state.inner state.now files drawn ∧
      Publishes ticket prepared state.inner state.now drawn published ∧
      next = { state with
        inner := published.1
        running := state.running.eraseIdx index
        changes := published.2.1.toList ++ state.changes } := by
  unfold CryptoState.finish at moved
  split at moved
  · cases moved
  next ticket present =>
    split at moved
    · cases moved
    next prepared done =>
      split at moved
      next fresh =>
        cases moved
        exact ⟨ticket, prepared, _, present, done, fresh.2, rfl,
          publishes ticket prepared state.inner state.now files drawn, rfl⟩
      · cases moved

/-- A running operation is one from before, a new snapshot, or one that was prepared. -/
def Continues (primitives : VaultPrimitives) (state : CryptoState) (ticket : Ticket) : Prop :=
  ticket ∈ state.running ∨
    (Exists fun operation =>
      takeSnapshot state.inner state.changes.length operation = .ok ticket) ∨
    Exists fun earlier => Exists fun capture => Exists fun draws => Exists fun prepared =>
      earlier ∈ state.running ∧
        Crypto.prepare primitives earlier.vault capture draws earlier.operation = .ok prepared ∧
        ticket = { earlier with prepared := some prepared }

/-- A step that changes neither the sessions, the lock, the vault nor the revision.
It adds no handle to a locked vault. -/
structure Quiet (inner next : CryptoStateInner) : Prop where
  revision : next.revision = inner.revision
  vault : next.vault = inner.vault
  locked : next.locked = inner.locked
  currentSession : next.currentSession = inner.currentSession
  sessions : next.sessions = inner.sessions
  handles : inner.locked = true -> inner.operationHandles.isEmpty = true ->
    next.operationHandles.isEmpty = true

/-- What a step can do. -/
inductive Advance (primitives : VaultPrimitives) (state : CryptoState) (event : VaultEvent)
    (next : CryptoState) : Prop
  | quiet (quiet : Quiet state.inner next.inner) (changes : next.changes = state.changes)
      (running : forall ticket, ticket ∈ next.running -> Continues primitives state ticket)
  | locked (inner : next.inner = state.inner.lockInner)
      (changes : next.changes = .locked :: state.changes)
      (running : forall ticket, ticket ∈ next.running -> ticket ∈ state.running)
  | features (features : CryptoFeatureFlags) (inner : next.inner = state.inner.setFeatures features)
      (changes : next.changes = .features :: state.changes)
      (running : forall ticket, ticket ∈ next.running -> ticket ∈ state.running)
  | opened {index : Nat} {files : FileCommit} {drawn : UInt64} {ticket : Ticket} {prepared : Prepared}
      {wrappingKey : SecretKey} (finishes : event = .finish index files drawn)
      (present : state.running[index]? = some ticket) (done : ticket.prepared = some prepared)
      (current : ticket.stale state.inner = false)
      (opens : ticket.operation.kind.opensSession = true)
      (held : prepared.vault.wrappingKey = .ok wrappingKey)
      (inner : next.inner = { state.inner with
        sessions := (if ticket.operation.kind = .importRecovery then ∅
          else state.inner.sessions).insert drawn ⟨wrappingKey⟩
        currentSession := some drawn
        locked := false
        vault := prepared.vault
        revision := state.inner.revision + 1
        lastActivity := state.now })
      (changes : next.changes = .committed ticket.operation.kind :: state.changes)
      (running : forall ticket, ticket ∈ next.running -> ticket ∈ state.running)
  | changed {index : Nat} {files : FileCommit} {drawn : UInt64} {ticket : Ticket} {prepared : Prepared}
      (finishes : event = .finish index files drawn)
      (present : state.running[index]? = some ticket) (done : ticket.prepared = some prepared)
      (current : ticket.stale state.inner = false) (kind : ticket.operation.kind = .change)
      (inner : next.inner = { state.inner with
        vault := prepared.vault
        revision := state.inner.revision + 1
        lastActivity := state.now })
      (changes : next.changes = .committed .change :: state.changes)
      (running : forall ticket, ticket ∈ next.running -> ticket ∈ state.running)

theorem Quiet.refl (inner : CryptoStateInner) : Quiet inner inner :=
  ⟨rfl, rfl, rfl, rfl, rfl, fun _ => id⟩

theorem finish_advance {index : Nat} {files : FileCommit} {drawn : UInt64}
    (moved : state.finish index files drawn = some next) :
    Advance primitives state (.finish index files drawn) next := by
  rcases finish_eq_some moved with ⟨ticket, prepared, published, present, done, fresh, -, publishes, rfl⟩
  have kept : forall ticket, ticket ∈ state.running.eraseIdx index -> ticket ∈ state.running :=
    fun ticket member => List.mem_of_mem_eraseIdx member
  cases publishes with
  | refused error => exact .quiet (.refl _) rfl fun ticket member => .inl (kept ticket member)
  | expired error => exact .locked rfl rfl kept
  | opened current opens held => exact .opened rfl present done current opens held rfl rfl kept
  | changed current changes => exact .changed rfl present done current changes rfl rfl kept
  | read value =>
    exact .quiet ⟨rfl, rfl, rfl, rfl, rfl, fun _ => id⟩ rfl fun ticket member =>
      .inl (kept ticket member)

theorem relock_advance {event : VaultEvent} {result : CryptoStateInner × Bool}
    (locks : result = (state.inner.lockInner, true) ∨
      (Quiet state.inner result.1 ∧ result.2 = false)) :
    Advance primitives state event (state.relock result) := by
  rcases locks with rfl | ⟨quiet, unlocked⟩
  · exact .locked rfl rfl fun _ => id
  · refine .quiet quiet ?_ fun _ => .inl
    simp only [CryptoState.relock, unlocked]
    rfl

theorem lockIfAutoLockDue_locks (inner : CryptoStateInner) (now : Nat) :
    inner.lockIfAutoLockDue now = (inner.lockInner, true) ∨
      (Quiet inner (inner.lockIfAutoLockDue now).1 ∧ (inner.lockIfAutoLockDue now).2 = false) := by
  unfold CryptoStateInner.lockIfAutoLockDue
  split
  · exact .inl rfl
  · exact .inr ⟨.refl _, rfl⟩

theorem recordActivity_locks (inner : CryptoStateInner) (now : Nat) :
    inner.recordActivity now = (inner.lockInner, true) ∨
      (Quiet inner (inner.recordActivity now).1 ∧ (inner.recordActivity now).2 = false) := by
  unfold CryptoStateInner.recordActivity
  split
  · exact .inr ⟨.refl _, rfl⟩
  · split
    · exact .inl rfl
    · exact .inr ⟨⟨rfl, rfl, rfl, rfl, rfl, fun _ => id⟩, rfl⟩

theorem operationWrappingKey_quiet (inner : CryptoStateInner) (now : Nat) (handle : UInt64)
    (operationClass : OperationClass) :
    Quiet inner (inner.operationWrappingKey now handle operationClass).1 := by
  unfold CryptoStateInner.operationWrappingKey
  by_cases locked : inner.locked = true
  · rw [if_pos locked]
    exact .refl _
  · rw [if_neg locked]
    have retained : Quiet inner (inner.retainOperations now) :=
      ⟨rfl, rfl, rfl, rfl, rfl, fun closed => absurd closed locked⟩
    simp only
    split
    · exact retained
    · split
      · exact retained
      · split
        · exact retained
        · exact ⟨rfl, rfl, rfl, rfl, rfl, fun closed => absurd closed locked⟩

theorem createOperationHandle_quiet {inner next : CryptoStateInner} {now : Nat}
    {session handle drawn : UInt64} {operationClass : OperationClass}
    (created : inner.createOperationHandle now session operationClass drawn = .ok (next, handle)) :
    Quiet inner next := by
  unfold CryptoStateInner.createOperationHandle at created
  split at created
  · cases created
  next authorised =>
    cases created
    exact ⟨rfl, rfl, rfl, rfl, rfl, fun closed => absurd (.inl closed) authorised⟩

theorem stagePromptSecret_quiet {inner next : CryptoStateInner} {now : Nat} {secret : Bytes}
    {handle drawn : UInt64} (staged : inner.stagePromptSecret now secret drawn = .ok (next, handle)) :
    Quiet inner next := by
  unfold CryptoStateInner.stagePromptSecret at staged
  split at staged <;> cases staged
  exact ⟨rfl, rfl, rfl, rfl, rfl, fun _ => id⟩

theorem consumePromptSecret_quiet (inner : CryptoStateInner) (now : Nat) (handle : UInt64) :
    Quiet inner (inner.consumePromptSecret now handle).1 := by
  unfold CryptoStateInner.consumePromptSecret
  split
  · exact .refl _
  · exact ⟨rfl, rfl, rfl, rfl, rfl, fun _ => id⟩

theorem vaultMachine_advance {event : VaultEvent}
    (moved : (vaultMachine primitives).step state event = some next) :
    Advance primitives state event next := by
  have same : forall ticket, ticket ∈ state.running -> Continues primitives state ticket :=
    fun ticket => .inl
  cases event with
  | wait duration =>
    cases moved
    exact .quiet (.refl _) rfl same
  | begin operation =>
    simp only [vaultMachine] at moved
    split at moved <;> cases moved
    · exact .quiet (.refl _) rfl same
    next taken =>
      refine .quiet (.refl _) rfl fun ticket member => ?_
      rcases List.mem_append.mp member with old | new
      · exact .inl old
      · rw [List.mem_singleton.mp new]
        exact .inr (.inl ⟨operation, taken⟩)
  | prepare index file draws =>
    rcases prepare_eq_some moved with ⟨ticket, present, rfl | ⟨capture, prepared, done, rfl⟩⟩
    · exact .quiet (.refl _) rfl fun ticket member => .inl (List.mem_of_mem_eraseIdx member)
    · refine .quiet (.refl _) rfl fun found member => ?_
      rcases List.mem_or_eq_of_mem_set member with old | rfl
      · exact .inl old
      · exact .inr (.inr ⟨ticket, capture, draws, prepared, List.mem_of_getElem? present, done, rfl⟩)
  | finish index files drawn => exact finish_advance moved
  | drop index =>
    cases moved
    exact .quiet (.refl _) rfl fun ticket member => .inl (List.mem_of_mem_eraseIdx member)
  | lock =>
    cases moved
    exact .locked rfl rfl fun _ => id
  | lockIfAutoLockDue =>
    cases moved
    exact relock_advance (lockIfAutoLockDue_locks _ _)
  | recordActivity =>
    cases moved
    exact relock_advance (recordActivity_locks _ _)
  | setFeatures features =>
    cases moved
    exact .features features rfl rfl fun _ => id
  | setAutoLockTimeout timeout =>
    cases moved
    exact .quiet ⟨rfl, rfl, rfl, rfl, rfl, fun _ => id⟩ rfl same
  | createOperationHandle session operationClass drawn =>
    simp only [vaultMachine] at moved
    split at moved
    · split at moved <;> cases moved
      · exact .quiet (.refl _) rfl same
      next created => exact .quiet (createOperationHandle_quiet created) rfl same
    · cases moved
  | revokeOperationHandle handle =>
    cases moved
    refine .quiet ⟨rfl, rfl, rfl, rfl, rfl, fun _ empty => ?_⟩ rfl same
    change (state.inner.operationHandles.erase handle).isEmpty = true
    rw [Std.TreeMap.isEmpty_erase, empty, Bool.true_or]
  | operationWrappingKey handle operationClass =>
    cases moved
    exact .quiet (operationWrappingKey_quiet _ _ _ _) rfl same
  | stagePromptSecret secret drawn =>
    simp only [vaultMachine] at moved
    split at moved
    · split at moved <;> cases moved
      · exact .quiet (.refl _) rfl same
      next staged => exact .quiet (stagePromptSecret_quiet staged) rfl same
    · cases moved
  | consumePromptSecret handle =>
    cases moved
    exact .quiet (consumePromptSecret_quiet _ _ _) rfl same

end Inversion

/-! ## Concrete schedules -/

def sampleKey (byte : UInt8) : SecretKey := ⟨List.replicate 32 byte, List.length_replicate⟩

/-- A vault file that holds one key, whatever it looks like. -/
def samplePrimitives : VaultPrimitives where
  openFile _ _ := .ok ⟨⟨0, sampleKey 1, ∅⟩, sampleKey 2, []⟩
  openBundle _ _ := .error .wrongKeyOrCorrupt
  derivePassphraseKey _ _ := .ok (sampleKey 2)
  encryptPayloadWithKey payload _ _ _ := .ok payload
  createRecoveryBundle payload _ := .ok payload
  sha256 := id

def sampleDraws : Draws := ⟨0, sampleKey 1, [], []⟩

def samplePassphrase : Bytes := List.replicate 8 0

/-- An operation runs alone from its snapshot to its publication. -/
def sampleOperation (operation : Operation) (file : Option Bytes) (drawn : UInt64) : List VaultEvent :=
  [.begin operation, .prepare 0 file sampleDraws, .finish 0 ⟨true, true⟩ drawn]

end Crypto
end TelegramDrive
