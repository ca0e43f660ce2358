import TelegramDrive.Library.Machine
import TelegramDrive.Transfers.Requests

namespace TelegramDrive
namespace Transfers

/-!
# The transfer queue over many starts of the process

The engine with the operations it has started, in a process that can stop at any
time and start again from the database.  The events come in any order; each takes
the answers of the platform, the errors of the database among them, as data.

What the engine takes for running is its map `active`; what really runs is kept
apart from it, in `operations`.
-/

/-- The queue.  The last three fields are a history that only the theorems read:
the limit in force when an operation of each direction was last started, the ids
whose operation has succeeded in this process with no retry by the user since,
and the deleted ids with the second of their deletion, until a start finds that
past the retention. -/
structure TransferQueue where
  engine : TransferEngine
  running : Bool
  operations : List TransferJob
  limits : TransferDirection -> Nat
  succeeded : List String
  retained : List (String × Int)

inductive QueueEvent
  | start (now seconds : Int) (stops : Option Nat)
  | stop
  | schedule (pass : TransferEngine.SchedulePass)
  | finish (id : String) (result : Except String TransferResponse) (now : Int) (failure : Option String)
  | progress (update : TransferEngine.ProgressUpdate) (checkpointDue : Bool) (failure : Option String)
  | enqueue (requests : List TransferEnqueueRequest) (session : SessionReading) (disk : Disk) (now : Int)
      (failure : Option String)
  | transition (id : String) (action : TransferAction) (session : SessionReading)
      (expected : Option String) (now : Int) (failure : Option String)
  | withdraw (id : String) (seconds : Int) (failure : Option String)
  | clearTerminal (direction : TransferDirection) (includeFailedAndCancelled : Bool)
      (session : SessionReading) (expected : Option String) (seconds : Int) (failure : Option String)
  | adopt (owner : String) (ids : List String) (confirmed : Bool) (session : SessionReading) (now : Int)
      (failure : Option String)
  | discard (owner : String) (ids : List String) (session : SessionReading) (seconds : Int)
      (failure : Option String)
  | setLimits (maxUploads maxDownloads : Nat)

namespace TransferQueue

/-- A database, and no process. -/
def offline (store : TransferStore) : TransferQueue where
  engine := TransferEngine.opened store []
  running := false
  operations := []
  limits _ := 0
  succeeded := []
  retained := []

/-- The end of the process: what is in memory is gone, and what was running ends. -/
def stop (queue : TransferQueue) : TransferQueue :=
  { queue with
    engine := TransferEngine.opened queue.engine.store []
    running := false
    operations := []
    succeeded := [] }

/-- A start of the process.  Without a failure it runs from then on. -/
def start (queue : TransferQueue) (now seconds : Int) (stops : Option Nat) : TransferQueue :=
  let retained := queue.retained.filter fun entry => decide (seconds - tombstoneRetentionSecs ≤ entry.2)
  match queue.engine.store.openStore now seconds stops with
  | (store, some jobs) =>
    { queue.stop with engine := TransferEngine.opened store jobs, running := true, retained := retained }
  | (store, none) => { queue.stop with engine := TransferEngine.opened store [], retained := retained }

/-- The ids whose row a step deleted. -/
def deleted (before after : TransferStore) (seconds : Int) : List (String × Int) :=
  ((before.rows.items.map (·.id)).filter fun id => (after.rows.find? id).isNone).map fun id => (id, seconds)

def schedule (queue : TransferQueue) (pass : TransferEngine.SchedulePass) : TransferQueue :=
  let (engine, started) := queue.engine.scheduleOnce pass
  { queue with
    engine := engine
    operations := started ++ queue.operations
    limits := fun direction =>
      if started.any fun job => decide (job.direction = direction) then engine.limit direction
      else queue.limits direction }

def finish (system : FileSystem) (queue : TransferQueue) (id : String)
    (result : Except String TransferResponse) (now : Int) (failure : Option String) : TransferQueue :=
  { queue with
    engine := queue.engine.finish system id result now failure
    operations := queue.operations.eraseP fun job => decide (job.id = id)
    succeeded := if result.isOk then id :: queue.succeeded else queue.succeeded }

/-- A retry of a failed or cancelled job is the one request that lets a finished
operation start again. -/
def forgives (queue : TransferQueue) (id : String) (action : TransferAction) : Bool :=
  decide (action = .retry) && (queue.engine.jobs.find? id).any fun job =>
    decide (job.status = .failed) || decide (job.status = .cancelled)

def transition (queue : TransferQueue) (id : String) (action : TransferAction) (session : SessionReading)
    (expected : Option String) (now : Int) (failure : Option String) : TransferQueue :=
  match queue.engine.transition id action session expected now failure with
  | .error _ => queue
  | .ok (engine, _) =>
    { queue with
      engine := engine
      succeeded :=
        if queue.forgives id action then queue.succeeded.filter fun other => decide (other ≠ id)
        else queue.succeeded }

/-- Take the state of a request that was carried out. -/
def adopt (queue : TransferQueue) : Except String TransferEngine -> TransferQueue
  | .error _ => queue
  | .ok engine => { queue with engine := engine }

/-- Take the state of a request that deleted rows. -/
def remove (queue : TransferQueue) (seconds : Int) (engine : TransferEngine) : TransferQueue :=
  { queue with
    engine := engine
    retained := deleted queue.engine.store engine.store seconds ++ queue.retained }

def removeIf (queue : TransferQueue) (seconds : Int) : Except String TransferEngine -> TransferQueue
  | .error _ => queue
  | .ok engine => queue.remove seconds engine

section Machine

variable (system : FileSystem)

/-- An event of a running process. -/
def act (queue : TransferQueue) : QueueEvent -> Option TransferQueue
  | .start _ _ _ => none
  | .stop => some queue.stop
  | .schedule pass => some (queue.schedule pass)
  | .finish id result now failure =>
    if queue.operations.any fun job => decide (job.id = id) then
      some (queue.finish system id result now failure)
    else none
  | .progress update checkpointDue failure =>
    some (queue.adopt (.ok (queue.engine.recordProgress update checkpointDue failure)))
  | .enqueue requests session disk now failure =>
    some (queue.adopt (queue.engine.enqueueMany system requests session disk now failure))
  | .transition id action session expected now failure =>
    some (queue.transition id action session expected now failure)
  | .withdraw id seconds failure => some (queue.remove seconds (queue.engine.withdraw id seconds failure).1)
  | .clearTerminal direction includeFailedAndCancelled session expected seconds failure =>
    some (queue.removeIf seconds
      (queue.engine.clearTerminal direction includeFailedAndCancelled session expected seconds failure))
  | .adopt owner ids confirmed session now failure =>
    some (queue.adopt (queue.engine.adoptAll owner ids confirmed session now failure))
  | .discard owner ids session seconds failure =>
    some (queue.removeIf seconds (queue.engine.discardLegacy owner ids session seconds failure))
  | .setLimits maxUploads maxDownloads =>
    some (queue.adopt (.ok (queue.engine.setLimits maxUploads maxDownloads)))

/-- The queue over many starts. -/
def transferMachine : Machine TransferQueue QueueEvent where
  step queue event :=
    if queue.running then queue.act system event
    else
      match event with
      | .start now seconds stops => some (queue.start now seconds stops)
      | _ => none

end Machine

/-- No job is enqueued under the id of a row that the process has forgotten, which
a withdrawal leaves behind when its deletion fails. -/
def enqueuesFresh (queue : TransferQueue) : QueueEvent -> Bool
  | .enqueue requests _ _ _ _ => requests.all fun request =>
    (queue.engine.jobs.find? request.id).isSome || (queue.engine.store.rows.find? request.id).isNone
  | _ => true

end TransferQueue

end Transfers
end TelegramDrive
