import TelegramDrive.Transfers.Engine

namespace TelegramDrive
namespace Transfers

/-!
# Requests to the transfer engine

What the interface and Folder Sync ask of the queue: new transfers, a pause, a
cancellation, a resumption or a retry of one, and the removal of records.  A
request that is refused, or whose write fails, changes nothing.  The withdrawal
of a supervised transfer is the exception: it forgets the job even if its row
could not be deleted.
-/

structure TransferEnqueueRequest where
  id : String
  ownerId : Option String
  direction : TransferDirection
  kind : TransferKind
  path : Option String
  url : Option String
  messageId : Option Int
  filename : String
  savePath : Option DownloadPath
  collisionPolicy : DownloadCollisionPolicy
  totalBytes : Option Nat
  initialStatus : Option TransferStatus
  origin : Option String
deriving DecidableEq

namespace TransferEnqueueRequest

variable (system : FileSystem)

/-- `as_deref().unwrap_or("").is_empty()`. -/
def isMissing (text : Option String) : Bool := text.all fun text => text.isEmpty

def validate (request : TransferEnqueueRequest) : Except String Unit :=
  if system.isBlank request.id || decide (128 < request.id.utf8ByteSize) then
    .error "Transfer ID is missing or invalid"
  else if system.isBlank request.filename then .error "Transfer filename is required"
  else
    match request.kind with
    | .localUpload =>
      if isMissing request.path then .error "A local upload requires a source path"
      else if request.direction ≠ .upload then .error "Upload jobs must use the upload direction"
      else .ok ()
    | .urlUpload =>
      if isMissing request.url then .error "A URL upload requires a URL"
      else if request.direction ≠ .upload then .error "Upload jobs must use the upload direction"
      else .ok ()
    | .download =>
      if request.messageId.isNone || request.savePath.all (fun path => decide (path = ⟨"", ""⟩)) then
        .error "A download requires a message and destination path"
      else if request.direction ≠ .download then .error "Download jobs must use the download direction"
      else .ok ()

/-- The status of a new job.  A job that nobody owns waits to be reviewed. -/
def status (request : TransferEnqueueRequest) : TransferStatus :=
  let requested := request.initialStatus.getD .pending
  if request.ownerId.isNone && !requested.isTerminal then .paused
  else if requested.isActive then .pending
  else requested

def job (request : TransferEnqueueRequest) (position now : Int) : TransferJob where
  id := request.id
  ownerId := request.ownerId
  direction := request.direction
  kind := request.kind
  status := request.status
  downloadOutcome := none
  messageId := request.messageId
  filename := request.filename
  savePath := request.savePath
  collisionPolicy := request.collisionPolicy
  progress := 0
  transferredBytes := 0
  totalBytes := request.totalBytes.getD 0
  speedBytesPerSec := 0
  error := none
  errorCategory := none
  persistencePending := false
  retryAt := none
  networkRetries := 0
  origin := request.origin
  queuePosition := position
  revision := 1
  createdAt := now
  updatedAt := now

/-- The checks of every request, before anything else. -/
def validateAll (owner : String) : List TransferEnqueueRequest -> Except String Unit
  | [] => .ok ()
  | request :: requests =>
    match request.validate system with
    | .error error => .error error
    | .ok () =>
      if request.ownerId.any fun id => decide (id ≠ owner) then
        .error "ACCOUNT_CHANGED: Transfer belongs to another account"
      else validateAll owner requests

/-- The records of a batch from a queue position on: what is queued already keeps
its record, and the rest is created. -/
def records (jobs : JobTable) (now : Int) : Int -> List TransferJob -> List String ->
    List TransferEnqueueRequest -> Except String (List TransferJob × List String)
  | _, changed, created, [] => .ok (changed, created)
  | position, changed, created, request :: requests =>
    if changed.any fun job => decide (job.id = request.id) then .error "Duplicate transfer ID in batch"
    else
      match jobs.find? request.id with
      | some existing =>
        if existing.ownerId ≠ request.ownerId then .error "Transfer ID belongs to a different owner"
        else records jobs now position (changed ++ [existing]) created requests
      | none =>
        let position := min (position + 1) (2 ^ 63 - 1)
        records jobs now position (changed ++ [request.job position now]) (created ++ [request.id])
          requests

end TransferEnqueueRequest

namespace TransferEngine

/-- The destinations of the downloads that are not completed. -/
def reservedPaths (engine : TransferEngine) : List DownloadPath :=
  (engine.jobs.items.filter fun job =>
    decide (job.direction = .download) && decide (job.status ≠ .completed)).filterMap (·.savePath)

/-- `enqueue_many`, with the disk on which the new downloads reserve their names. -/
def enqueueMany (system : FileSystem) (engine : TransferEngine) (requests : List TransferEnqueueRequest)
    (session : SessionReading) (disk : Disk) (now : Int) (failure : Option String) :
    Except String TransferEngine := do
  let owner <- session.account none
  TransferEnqueueRequest.validateAll system owner requests
  let position := (engine.jobs.items.map (·.queuePosition)).max?.getD 0
  let (changed, created) <- TransferEnqueueRequest.records engine.jobs now position [] [] requests
  let changed <- reserveNewDownloads system disk changed created engine.reservedPaths
  session.validate
  engine.commitJobs changed failure

/-- The job after an action, if the action applies to it. -/
def actOn (job : TransferJob) : TransferAction -> Option TransferJob
  | .pause => if job.status.isTerminal then none else some { job with status := .paused }
  | .cancel => if job.status.isTerminal then none else some { job with status := .cancelled }
  | .resume =>
    if job.status = .paused then some { job with status := .pending, networkRetries := 0 } else none
  | .retry =>
    if job.status = .failed ∨ job.status = .cancelled ∨ job.status = .waitingForUnlock ∨
        job.status = .waitingForNetwork ∨ job.status = .cooldown then
      some { job with status := .pending, progress := 0, transferredBytes := 0, networkRetries := 0 }
    else none

/-- `transition`.  The flag says that a running operation is asked to stop. -/
def transition (engine : TransferEngine) (id : String) (action : TransferAction)
    (session : SessionReading) (expected : Option String) (now : Int) (failure : Option String) :
    Except String (TransferEngine × Bool) := do
  let owner <- session.account expected
  match engine.jobs.find? id with
  | none => .error "Transfer was not found"
  | some job =>
    if job.ownerId ≠ some owner then .error "ACCOUNT_CHANGED: Transfer is not owned by this account"
    else
      match engine.pendingCommits.find? id with
      | some pending =>
        session.validate
        let next <- engine.commitJobs
          [{ pending with revision := nextRevision job.revision, persistencePending := false }] failure
        .ok ({ next with pendingCommits := next.pendingCommits.erase id }, false)
      | none =>
        match actOn job action with
        | none => .ok (engine, false)
        | some acted =>
          session.validate
          let next <- engine.commitJobs [{ acted with
            error := none
            errorCategory := none
            retryAt := none
            speedBytesPerSec := 0
            revision := nextRevision acted.revision
            updatedAt := now }] failure
          .ok (next, (engine.active.find? id).isSome &&
            (decide (action = .pause) || decide (action = .cancel)))

/-- `withdraw`.  The flag says that the operation was running.  A failed deletion
is only logged. -/
def withdraw (engine : TransferEngine) (id : String) (seconds : Int) (failure : Option String) :
    TransferEngine × Bool :=
  let forgotten := match engine.jobs.find? id with
    | none => engine
    | some _ =>
      match engine.store.deleteMany [id] seconds failure with
      | .error _ => { engine with jobs := engine.jobs.erase id }
      | .ok store => { engine with store := store, jobs := engine.jobs.erase id }
  ({ forgotten with pendingCommits := forgotten.pendingCommits.erase id },
    (engine.active.find? id).isSome)

/-- The ids that `clear_terminal` removes. -/
def clearedIds (engine : TransferEngine) (owner : String) (direction : TransferDirection)
    (includeFailedAndCancelled : Bool) : List String :=
  (engine.jobs.items.filter fun job =>
    decide (job.ownerId = some owner) && !job.persistencePending && decide (job.direction = direction) &&
      (decide (job.status = .completed) || (includeFailedAndCancelled &&
        (decide (job.status = .failed) || decide (job.status = .cancelled))))).map (·.id)

def clearTerminal (engine : TransferEngine) (direction : TransferDirection)
    (includeFailedAndCancelled : Bool) (session : SessionReading) (expected : Option String)
    (seconds : Int) (failure : Option String) : Except String TransferEngine := do
  let owner <- session.account expected
  let ids := engine.clearedIds owner direction includeFailedAndCancelled
  session.validate
  let store <- engine.store.deleteMany ids seconds failure
  .ok { engine with store := store, jobs := engine.jobs.eraseAll ids }

/-- `adopt_legacy`. -/
def adoptLegacy (job : TransferJob) (owner : String) (now : Int) : Except String TransferJob :=
  if job.ownerId.isSome then .error "Only unassigned transfers can be reviewed"
  else if job.direction = .download ∧ job.status ≠ .completed then
    .error "Requeue unfinished legacy downloads from the current account's file list"
  else .ok { job with
    ownerId := some owner
    status := if job.status = .completed then .completed else .paused
    error := none
    errorCategory := none
    retryAt := none
    speedBytesPerSec := 0
    revision := nextRevision job.revision
    updatedAt := now }

/-- `cmd_transfer_adopt_legacy`. -/
def adoptAll (engine : TransferEngine) (owner : String) (ids : List String) (confirmed : Bool)
    (session : SessionReading) (now : Int) (failure : Option String) : Except String TransferEngine :=
  if confirmed = false then .error "Confirm that these transfers belong to the current account"
  else do
    let _ <- session.account (some owner)
    let updates <- ids.mapM fun id =>
      match engine.jobs.find? id with
      | none => .error "Legacy transfer was not found"
      | some job => adoptLegacy job owner now
    session.validate
    engine.commitJobs updates failure

/-- `cmd_transfer_discard_legacy`. -/
def discardLegacy (engine : TransferEngine) (owner : String) (ids : List String)
    (session : SessionReading) (seconds : Int) (failure : Option String) : Except String TransferEngine := do
  let _ <- session.account (some owner)
  if ids.any fun id => (engine.jobs.find? id).all fun job => job.ownerId.isSome then
    .error "Only unassigned queue records can be discarded"
  else do
    session.validate
    let store <- engine.store.deleteMany ids seconds failure
    .ok { engine with store := store, jobs := engine.jobs.eraseAll ids }

/-- `cmd_transfer_set_limits`. -/
def setLimits (engine : TransferEngine) (maxUploads maxDownloads : Nat) : TransferEngine :=
  { engine with
    maxUploads := max 1 (min maxUploads 32)
    maxDownloads := max 1 (min maxDownloads 32) }

/-- The engine of a new process, with the jobs of a store that was opened. -/
def opened (store : TransferStore) (jobs : List TransferJob) : TransferEngine where
  store := store
  jobs := Table.empty.insertAll jobs
  active := .empty
  pendingCommits := .empty
  maxUploads := 6
  maxDownloads := 6

end TransferEngine

end Transfers
end TelegramDrive
