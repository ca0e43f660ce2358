import TelegramDrive.Transfers.Failure
import TelegramDrive.Transfers.Store

namespace TelegramDrive
namespace Transfers

/-!
# The transfer engine

The jobs in memory, the ids of the operations that are running, and the results
whose last write failed.  Every function below runs under the mutation lock from
its first read to its last write, so each is one step of the queue.

A write takes the error of the database, if there is one, as an argument.  What
`AccountGuard` reads of the session is given as a `SessionReading`.
-/

structure TransferEngine where
  store : TransferStore
  jobs : JobTable
  active : Table String (String × TransferDirection) Prod.fst
  pendingCommits : JobTable
  maxUploads : Nat
  maxDownloads : Nat

/-- The owner that the session names, and whether it is still so at the end. -/
structure SessionReading where
  owner : Option String
  valid : Bool
deriving DecidableEq

namespace SessionReading

def account (session : SessionReading) (expected : Option String) : Except String String :=
  match session.owner with
  | none => .error "ACCOUNT_REQUIRED: Sign in to open your workspace"
  | some owner =>
    if expected.all fun id => decide (id = owner) then .ok owner
    else .error "ACCOUNT_CHANGED: Reopen your workspace for the current account"

def validate (session : SessionReading) : Except String Unit :=
  if session.valid then .ok () else .error "ACCOUNT_CHANGED: This operation belongs to a different session"

end SessionReading

inductive TransferAction
  | pause
  | cancel
  | resume
  | retry
deriving DecidableEq

namespace TransferEngine

/-! ## Commits -/

/-- `commit_jobs`: what is written becomes visible in memory after it. -/
def commitJobs (engine : TransferEngine) (updated : List TransferJob) (failure : Option String) :
    Except String TransferEngine :=
  match engine.store.upsertMany updated failure with
  | .error error => .error ("PERSISTENCE_ERROR: Transfer changes were not saved: " ++ error)
  | .ok store => .ok { engine with store := store, jobs := engine.jobs.insertAll updated }

/-- The copy in memory of a result that was not saved. -/
def unsavedResult (result : TransferJob) (error : String) : TransferJob :=
  { result with
    persistencePending := true
    error := some (error ++
      ". The transfer result will be saved again; its data will not be transferred again.")
    errorCategory := some .persistence }

def commitResult (engine : TransferEngine) (result : TransferJob) (failure : Option String) :
    TransferEngine :=
  let result := { result with persistencePending := false }
  match engine.commitJobs [result] failure with
  | .error error =>
    { engine with
      pendingCommits := engine.pendingCommits.insert result
      jobs := engine.jobs.insert (unsavedResult result error) }
  | .ok next => { next with pendingCommits := next.pendingCommits.erase result.id }

/-! ## The scheduler -/

/-- What a pass of the scheduler meets: the final commits that fail once more,
the session, the connection, the order in which it visits the jobs, the time,
and the error of its commit. -/
structure SchedulePass where
  unsaved : List String
  session : SessionReading
  connected : Bool
  order : List String
  now : Int
  failure : Option String
deriving DecidableEq

/-- One final commit that failed before.  The copies concern different ids, so
their order does not matter; the text of the error goes nowhere. -/
def retryCommit (unsaved : List String) (engine : TransferEngine) (job : TransferJob) : TransferEngine :=
  let job := { job with revision := nextRevision job.revision, persistencePending := false }
  match engine.commitJobs [job] (if job.id ∈ unsaved then some "" else none) with
  | .error _ => engine
  | .ok next => { next with pendingCommits := next.pendingCommits.erase job.id }

def retryCommits (engine : TransferEngine) (unsaved : List String) : TransferEngine :=
  engine.pendingCommits.items.foldl (retryCommit unsaved) engine

/-- The running operations of one direction. -/
def activeCount (engine : TransferEngine) (direction : TransferDirection) : Nat :=
  engine.active.items.countP fun entry => decide (entry.2 = direction)

def limit (engine : TransferEngine) : TransferDirection -> Nat
  | .upload => engine.maxUploads
  | .download => engine.maxDownloads

def slots (engine : TransferEngine) (direction : TransferDirection) : Nat :=
  engine.limit direction - engine.activeCount direction

def isEligible (owner : String) (now : Int) (job : TransferJob) : Bool :=
  decide (job.ownerId = some owner) && !job.persistencePending &&
    (decide (job.status = .pending) || decide (job.status = .waitingForNetwork) ||
      (decide (job.status = .cooldown) && job.retryAt.any fun time => decide (time ≤ now)))

/-- The jobs that could start, as pending ones. -/
def eligible (engine : TransferEngine) (owner : String) (now : Int) : JobTable :=
  engine.jobs.filterMap
    (fun job => if isEligible owner now job then some { job with status := .pending } else none)
    (fun job next changed => by
      split at changed
      · cases changed
        rfl
      · cases changed)

/-- The jobs in the order in which a map gives them. -/
def inOrder (order : List String) (jobs : List TransferJob) : List TransferJob :=
  jobs.insertionSort fun one two => order.idxOf one.id ≤ order.idxOf two.id

/-- Fill the slots of both directions from a list of candidates. -/
def fillSlots (uploadSlots downloadSlots : Nat) : Nat -> Nat -> List TransferJob -> List String
  | _, _, [] => []
  | uploads, downloads, job :: jobs =>
    match job.direction with
    | .upload =>
      if uploads < uploadSlots then
        job.id :: fillSlots uploadSlots downloadSlots (uploads + 1) downloads jobs
      else fillSlots uploadSlots downloadSlots uploads downloads jobs
    | .download =>
      if downloads < downloadSlots then
        job.id :: fillSlots uploadSlots downloadSlots uploads (downloads + 1) jobs
      else fillSlots uploadSlots downloadSlots uploads downloads jobs

/-- The pending jobs that are not running, by queue position. -/
def candidates (jobs : List TransferJob) (active : Table String (String × TransferDirection) Prod.fst) :
    List TransferJob :=
  (jobs.filter fun job => decide (job.status = .pending) && (active.find? job.id).isNone).insertionSort
    fun one two => one.queuePosition ≤ two.queuePosition

def selectPendingJobIds (jobs : List TransferJob) (active : Table String (String × TransferDirection) Prod.fst)
    (uploadSlots downloadSlots : Nat) : List String :=
  fillSlots uploadSlots downloadSlots 0 0 (candidates jobs active)

/-- A selected job as it is committed before it starts. -/
def startedJob (now : Int) (job : TransferJob) : TransferJob :=
  { job with
    status := if job.kind = .localUpload then .uploading else .downloading
    error := none
    errorCategory := none
    retryAt := none
    speedBytesPerSec := 0
    revision := nextRevision job.revision
    updatedAt := now }

def selected (engine : TransferEngine) (owner : String) (pass : SchedulePass) : List TransferJob :=
  let eligible := engine.eligible owner pass.now
  ((selectPendingJobIds (inOrder pass.order eligible.items) engine.active (engine.slots .upload)
    (engine.slots .download)).filterMap eligible.find?).map (startedJob pass.now)

/-- A job whose start was not saved. -/
def pauseUnsaved (error : String) (jobs : JobTable) (selected : TransferJob) : JobTable :=
  match jobs.find? selected.id with
  | none => jobs
  | some job =>
    jobs.insert { job with
      status := .paused
      error := some error
      errorCategory := some .persistence
      revision := nextRevision job.revision }

/-- The second half of `schedule_once`: the new state, and the operations that start. -/
def startSelected (engine : TransferEngine) (selected : List TransferJob) (pass : SchedulePass) :
    TransferEngine × List TransferJob :=
  if selected = [] ∨ pass.session.valid = false then (engine, [])
  else
    match engine.commitJobs selected pass.failure with
    | .error error => ({ engine with jobs := selected.foldl (pauseUnsaved error) engine.jobs }, [])
    | .ok next =>
      ({ next with active := next.active.insertAll (selected.map fun job => (job.id, job.direction)) },
        selected)

def scheduleOnce (engine : TransferEngine) (pass : SchedulePass) : TransferEngine × List TransferJob :=
  let engine := engine.retryCommits pass.unsaved
  match pass.session.owner with
  | none => (engine, [])
  | some owner =>
    if pass.connected = false then (engine, [])
    else if engine.slots .upload = 0 ∧ engine.slots .download = 0 then (engine, [])
    else engine.startSelected (engine.selected owner pass) pass

/-! ## Running operations -/

/-- The job of an operation that returned. -/
def endedJob (system : FileSystem) (job : TransferJob) (result : Except String TransferResponse)
    (now : Int) : TransferJob :=
  let job := match result with
    | .ok response => job.succeed response
    | .error error => job.fail system error now
  { job with revision := nextRevision job.revision, updatedAt := now }

/-- The end of `execute`, after its operation returned. -/
def finish (system : FileSystem) (engine : TransferEngine) (id : String)
    (result : Except String TransferResponse) (now : Int) (failure : Option String) : TransferEngine :=
  let engine := { engine with active := engine.active.erase id }
  match engine.jobs.find? id with
  | none => engine
  | some current => engine.commitResult (endedJob system current result now) failure

/-- The phases that progress events name. -/
inductive ProgressPhase
  | uploading
  | downloading
deriving DecidableEq

def ProgressPhase.status : ProgressPhase -> TransferStatus
  | .uploading => .uploading
  | .downloading => .downloading

structure ProgressUpdate where
  id : String
  phase : ProgressPhase
  progress : Nat
  transferredBytes : Nat
  totalBytes : Nat
  speedBytesPerSec : Nat
  now : Int
deriving DecidableEq

/-- The job of an operation that has come further. -/
def ProgressUpdate.record (update : ProgressUpdate) (job : TransferJob) : TransferJob :=
  { job with
    status := update.phase.status
    progress := update.progress
    transferredBytes := update.transferredBytes
    totalBytes := update.totalBytes
    speedBytesPerSec := update.speedBytesPerSec
    revision := nextRevision job.revision
    updatedAt := update.now }

/-- `record_progress`, and whether a checkpoint is due.  A checkpoint that fails
is only logged. -/
def recordProgress (engine : TransferEngine) (update : ProgressUpdate) (checkpointDue : Bool)
    (failure : Option String) : TransferEngine :=
  if (engine.active.find? update.id).isNone then engine
  else
    match engine.jobs.find? update.id with
    | none => engine
    | some job =>
      if job.status.isActive = false then engine
      else
        let updated := update.record job
        let engine := { engine with jobs := engine.jobs.insert updated }
        if checkpointDue && failure.isNone then
          match engine.store.upsert updated with
          | .error _ => engine
          | .ok store => { engine with store := store }
        else engine

end TransferEngine

end Transfers
end TelegramDrive
