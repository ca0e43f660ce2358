import TelegramDrive.Library.Machine

namespace TelegramDrive
namespace Workspace

/-!
# The account of the workspace

Which account owns the workspace is read from the session file, through the session
that is registered for it or, when that is gone, from the bare file.  Two atomics guard
the answer: a flag that sign-out raises, and a generation that it advances.  A guard
remembers the owner and the generation of the moment it was opened.

The steps are the loads and stores of the atomics, the sections of the registry's
mutex, the changes of the session file, and the loss of the last reference to a session.
Only sign-out makes two stores inside one section, so the mutex is held between them.
A file is named by its identity, which no other file has while it is open.
-/

/-! ## Guards -/

structure AccountGuard where
  root : String
  owner : Int
  generation : Nat
deriving DecidableEq

namespace AccountGuard

def sameSession (guard other : AccountGuard) : Bool :=
  guard.root == other.root && guard.owner == other.owner && guard.generation == other.generation

/-- A guard holds nothing beside what `same_session` compares. -/
theorem sameSession_iff {guard other : AccountGuard} : guard.sameSession other = true ↔ guard = other := by
  unfold sameSession
  rw [Bool.and_eq_true, Bool.and_eq_true, beq_iff_eq, beq_iff_eq, beq_iff_eq]
  constructor
  · rintro ⟨⟨root, owner⟩, generation⟩
    cases guard
    cases other
    cases root
    cases owner
    cases generation
    rfl
  · intro same
    rw [same]
    exact ⟨⟨rfl, rfl⟩, rfl⟩

end AccountGuard

/-- What a guard is compared with, where its validation counts as one step: the generation
of the lifecycle, and what `current_owner` answers for a root. -/
structure Session where
  generation : Nat
  currentOwner : String -> Except String Int

def otherSession : String := "ACCOUNT_CHANGED: This operation belongs to a different session"

namespace AccountGuard

def validate (guard : AccountGuard) (session : Session) : Except String Unit :=
  if guard.generation ≠ session.generation then .error otherSession
  else
    match session.currentOwner guard.root with
    | .error error => .error error
    | .ok owner => if owner ≠ guard.owner then .error otherSession else .ok ()

def validateClientOwner (guard : AccountGuard) (session : Session) (owner : Int) : Except String Unit :=
  if owner ≠ guard.owner then .error "ACCOUNT_CHANGED: Connected client belongs to another account"
  else guard.validate session

end AccountGuard

/-! ## Sessions and their file -/

structure WorkspaceLifecycle where
  signingOut : Bool
  generation : Nat
deriving DecidableEq

/-- The entry of `LIVE_SESSIONS`; a session is named by the order of its opening. -/
structure RegisteredSession where
  session : Nat
  identity : Option Nat
  generation : Nat
  ready : Bool
deriving DecidableEq

structure AuthenticationSession where
  session : Nat
  generation : Nat
deriving DecidableEq

/-- A user of whom Telegram's reply says whether it is the signed-in one. -/
structure PeerInfo where
  id : Int
  isSelf : Bool
deriving DecidableEq

/-- What a read of the owner is for. -/
inductive Purpose
  | owner
  | opening (expected : Option String) (generation : Nat)
  | validating (guard : AccountGuard)
deriving DecidableEq

/-- What a call ends with. -/
inductive Result
  | owner (owner : Int)
  | opened (guard : AccountGuard)
  | validated (guard : AccountGuard)
  | connected
  | signedOut
  | completed (capture : AuthenticationSession)
  | error (text : String)
deriving DecidableEq

/-- Where a call is. -/
inductive Phase
  -- `current_owner`, and the guards that ask it
  | opens (expected : Option String)
  | validates (guard : AccountGuard)
  | flag (purpose : Purpose)
  | file (purpose : Purpose)
  | epoch (purpose : Purpose)
  | reading (purpose : Purpose) (loaded : Nat)
  | rechecking (expected : Option String) (generation : Nat) (owner : Int)
  -- `cmd_logout`
  | suspending
  | advancing
  | revoking
  | clearingClient
  | clearingSession
  | removing
  -- `cmd_connect`, and the reconnections
  | resuming
  | dropping
  | locking
  | opening (attempts : Nat)
  | quarantining
  | recreating
  | registering (session : Nat)
  | installing (session : Nat)
  -- a login
  | capturing
  | captured (capture : AuthenticationSession)
  | ended (result : Result)
deriving DecidableEq

/-- A call, with the generation its last step left, and whether a sign-out had no
completed login after it then. -/
structure Call where
  phase : Phase
  generation : Nat
  departed : Bool
deriving DecidableEq

/-- The session file and what the process holds.  `locked` is the call that holds the
mutex of the registry between two steps, and `holder` the one that holds the lock of the
client; `owner` is the signed-in user that a file names, and `inode` the file that a session
has open.  `departed` says that no login was completed since a sign-out. -/
structure State where
  lifecycle : WorkspaceLifecycle
  locked : Option Nat
  file : Option Nat
  files : Nat
  owner : Nat -> Option Int
  sessions : Nat
  inode : Nat -> Nat
  alive : Nat -> Bool
  registered : Option RegisteredSession
  installed : Option Nat
  client : Option Nat
  holder : Option Nat
  calls : List Call
  departed : Bool

/-- What a step hears from the file system, SQLite and Telegram. -/
inductive Outcome
  | go
  | fails
  | peer (peer : PeerInfo)

inductive Event
  | currentOwner
  | openGuard (expected : Option String)
  | validate (guard : AccountGuard)
  | logout
  | connect
  | reconnect
  | login
  | release (session : Nat)
  | advance (index : Nat) (outcome : Outcome)

def changed : String := "ACCOUNT_CHANGED: The saved session has been replaced"

def restart : String := "ACCOUNT_CHANGED: Restart sign-in for the current session"

def unavailable : String := "ACCOUNT_UNAVAILABLE: The saved account is temporarily unavailable"

def signInAgain : String := "ACCOUNT_CHANGED: Sign in again to open your workspace"

namespace State

/-- A process that has opened nothing, with a session file or without. -/
def initial (file : Option Nat) (owner : Nat -> Option Int) : State where
  lifecycle := ⟨false, 0⟩
  locked := none
  file := file
  files := file.elim 0 Nat.succ
  owner := owner
  sessions := 0
  inode := fun _ => 0
  alive := fun _ => false
  registered := none
  installed := none
  client := none
  holder := none
  calls := []
  departed := false

/-! ## `open_session`, `register_session` -/

/-- The registered session, if it can be upgraded. -/
def upgraded (state : State) : Option RegisteredSession :=
  state.registered.filter fun registered => state.alive registered.session

/-- The file at the path is the one that was registered. -/
def sameFile (state : State) (registered : RegisteredSession) : Bool :=
  registered.identity.isSome && decide (state.file = registered.identity)

/-- The session that `open_session` reuses. -/
def reusable (state : State) : Option Nat :=
  (state.upgraded.filter fun registered =>
    decide (registered.generation = state.lifecycle.generation) && state.sameFile registered).map
      RegisteredSession.session

/-- `open_session`: the state and the session. -/
def openSession (state : State) : State × Nat :=
  match state.reusable with
  | some session => (state, session)
  | none =>
    let identity := state.file.getD state.files
    let session := state.sessions
    ({ state with
        file := some identity
        files := max state.files (identity + 1)
        owner := fun other =>
          if other = identity ∧ state.file = none then none else state.owner other
        sessions := session + 1
        inode := fun other => if other = session then identity else state.inode other
        alive := fun other => if other = session then true else state.alive other
        registered := some ⟨session, some identity, state.lifecycle.generation, false⟩ }, session)

/-- `register_session`; the layout of the file may be unsupported. -/
def registerSession (state : State) (session : Nat) (readable : Bool) : Except String State :=
  match state.registered with
  | none => .error unavailable
  | some registered =>
    if registered.session ≠ session || registered.generation ≠ state.lifecycle.generation ||
        !state.sameFile registered then
      .error changed
    else if registered.ready then .ok state
    else if !readable then .error unavailable
    else .ok { state with registered := some { registered with ready := true } }

/-! ## `AuthenticationSession` -/

def validateIn (state : State) (capture : AuthenticationSession) : Bool :=
  state.registered.any fun registered =>
    registered.ready && decide (registered.generation = capture.generation) &&
      decide (state.lifecycle.generation = capture.generation) &&
      decide (registered.session = capture.session) && state.sameFile registered

/-- `capture` of the installed session. -/
def capture (state : State) (session : Nat) : Except String AuthenticationSession :=
  let captured : AuthenticationSession := ⟨session, state.lifecycle.generation⟩
  if state.validateIn captured then .ok captured else .error restart

/-- `complete_verified`: the file names the owner before the flag falls. -/
def completeVerified (state : State) (capture : AuthenticationSession) (peer : PeerInfo) :
    Except String State :=
  if !state.validateIn capture then .error restart
  else if !peer.isSelf || !(decide (1 ≤ peer.id) && decide (peer.id ≤ 0xffffffffff)) then
    .error "ACCOUNT_UNAVAILABLE: Telegram did not confirm a valid account"
  else
    .ok { state with
      owner := fun other => if other = state.inode capture.session then some peer.id else state.owner other
      lifecycle := { state.lifecycle with signingOut := false }
      departed := false }

/-! ## `current_owner` -/

/-- The section of `current_owner` that holds the registry, after `loaded` was read as the
generation. -/
def readOwner (state : State) (loaded : Nat) (readable : Bool) : Except String Int :=
  let owner : Except String (Option Int) :=
    match state.upgraded with
    | some registered =>
      if registered.generation ≠ loaded || !state.sameFile registered then .error changed
      else if !registered.ready || !readable then .error unavailable
      else .ok (state.owner (state.inode registered.session))
    | none =>
      match state.file with
      | none => .error unavailable
      | some identity => if readable then .ok (state.owner identity) else .error unavailable
  match owner with
  | .error error => .error error
  | .ok owner =>
    if state.lifecycle.signingOut || loaded ≠ state.lifecycle.generation then .error signInAgain
    else
      match owner with
      | some owner => .ok owner
      | none => .error "ACCOUNT_REQUIRED: Sign in to open your workspace"

end State

/-- What becomes of the owner that was read. -/
def answered (purpose : Purpose) (owner : Int) : Phase :=
  match purpose with
  | .owner => .ended (.owner owner)
  | .opening expected generation => .rechecking expected generation owner
  | .validating guard =>
    if owner ≠ guard.owner then .ended (.error otherSession) else .ended (.validated guard)

/-- A capture or a local variable of a call still holds a session. -/
def Phase.holds (session : Nat) : Phase -> Bool
  | .registering other | .installing other => other == session
  | .captured capture => capture.session == session
  | _ => false

namespace State

/-- The references that the model knows. -/
def referenced (state : State) (session : Nat) : Bool :=
  state.installed == some session || state.client == some session ||
    state.calls.any fun call => Phase.holds session call.phase

/-- One step of a call.  The registry's mutex is free, or the step does not need it; and so
for the lock of the client. -/
def step (root : String) (state : State) (index : Nat) : Phase -> Outcome -> Option (State × Phase)
  | .opens expected, .go => some (state, .flag (.opening expected state.lifecycle.generation))
  | .validates guard, .go =>
    some (state, if guard.generation ≠ state.lifecycle.generation then .ended (.error otherSession)
      else .flag (.validating guard))
  | .flag purpose, .go =>
    some (state, if state.lifecycle.signingOut then
      .ended (.error "ACCOUNT_CHANGED: Sign in again to open this workspace") else .file purpose)
  | .file purpose, .go =>
    some (state, if state.file.isNone then
      .ended (.error "ACCOUNT_REQUIRED: Sign in to open your workspace") else .epoch purpose)
  | .epoch purpose, .go => some (state, .reading purpose state.lifecycle.generation)
  | .reading _ _, .peer _ => none
  | .reading purpose loaded, outcome =>
    if state.locked.isSome then none
    else
      match state.readOwner loaded (match outcome with | .go => true | _ => false) with
      | .ok owner => some (state, answered purpose owner)
      | .error error => some (state, .ended (.error error))
  | .rechecking expected generation owner, .go =>
    some (state, if generation ≠ state.lifecycle.generation || expected.any (· != toString owner) then
      .ended (.error "ACCOUNT_CHANGED: Reopen your workspace for the current account")
      else .ended (.opened ⟨root, owner, generation⟩))
  | .suspending, .go =>
    if state.locked.isSome then none
    else some ({ state with
      lifecycle := { state.lifecycle with signingOut := true }
      locked := some index }, .advancing)
  | .advancing, .go =>
    some ({ state with
      lifecycle := { state.lifecycle with generation := state.lifecycle.generation + 1 }
      locked := none
      departed := true }, .revoking)
  | .revoking, .go => some (state, .clearingClient)
  | .clearingClient, .go =>
    if state.holder.isSome then none else some ({ state with client := none }, .clearingSession)
  | .clearingSession, .go => some ({ state with installed := none }, .removing)
  -- The result of the removal is ignored.
  | .removing, .go => some ({ state with file := none }, .ended .signedOut)
  | .removing, .fails => some (state, .ended .signedOut)
  | .resuming, .go =>
    if state.locked.isSome then none
    else some ({ state with lifecycle := { state.lifecycle with signingOut := false } }, .locking)
  | .dropping, .go => if state.holder.isSome then none else some ({ state with client := none }, .locking)
  | .locking, .go =>
    if state.holder.isSome then none
    else if state.client.isSome then some (state, .ended .connected)
    else some ({ state with holder := some index }, .opening 0)
  | .opening _, .go =>
    if state.locked.isSome then none
    else
      let (next, session) := state.openSession
      some (next, .registering session)
  | .opening attempts, .fails => some (state, if attempts < 5 then .opening (attempts + 1) else .quarantining)
  | .quarantining, .go =>
    if state.file.isNone then
      some ({ state with holder := none }, .ended (.error "No session files were available to quarantine"))
    else some ({ state with file := none }, .recreating)
  | .quarantining, .fails =>
    some ({ state with holder := none },
      .ended (.error "Session could not be opened after retries and could not be preserved"))
  | .recreating, .go =>
    if state.locked.isSome then none
    else
      let (next, session) := state.openSession
      some (next, .registering session)
  | .recreating, .fails =>
    some ({ state with holder := none }, .ended (.error "Failed to open session after recreation"))
  | .registering _, .peer _ => none
  | .registering session, outcome =>
    if state.locked.isSome then none
    else
      match state.registerSession session (match outcome with | .go => true | _ => false) with
      | .ok next => some (next, .installing session)
      | .error error => some ({ state with holder := none }, .ended (.error error))
  | .installing session, .go =>
    some ({ state with
      installed := some session
      client := some session
      holder := none }, .ended .connected)
  | .capturing, .go =>
    if state.holder.isSome || state.locked.isSome then none
    else if state.client.isNone then some (state, .ended (.error "Telegram client is not initialized."))
    else
      match state.installed with
      | none => some (state, .ended (.error "Telegram session is not initialized."))
      | some session =>
        match state.capture session with
        | .ok capture => some (state, .captured capture)
        | .error error => some (state, .ended (.error error))
  | .captured _, .fails => some (state, .ended (.error "Telegram did not confirm the login"))
  | .captured capture, .peer peer =>
    if state.locked.isSome then none
    else
      match state.completeVerified capture peer with
      | .ok next => some (next, .ended (.completed capture))
      | .error error => some (state, .ended (.error error))
  | _, _ => none

def join (state : State) (phase : Phase) : State :=
  { state with calls := state.calls ++ [⟨phase, state.lifecycle.generation, state.departed⟩] }

def act (root : String) (state : State) : Event -> Option State
  | .currentOwner => some (state.join (.flag .owner))
  | .openGuard expected => some (state.join (.opens expected))
  | .validate guard => if guard.root = root then some (state.join (.validates guard)) else none
  | .logout => some (state.join .suspending)
  | .connect => some (state.join .resuming)
  | .reconnect => some (state.join .dropping)
  | .login => some (state.join .capturing)
  | .release session =>
    if state.alive session && !state.referenced session then
      some { state with alive := fun other => if other = session then false else state.alive other }
    else none
  | .advance index outcome =>
    state.calls[index]?.bind fun call =>
      (state.step root index call.phase outcome).map fun (next, phase) =>
        { next with
          calls := state.calls.set index ⟨phase, next.lifecycle.generation, next.departed⟩ }

end State

/-- The machine, over the directory of the workspace. -/
def accountMachine (root : String) : Machine State Event where
  step := State.act root

end Workspace
end TelegramDrive
